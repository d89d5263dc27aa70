import ContractLens.Yaml.Layout

/-!
# YAML nodes

A YAML document is a tree of scalars, sequences and mappings. A node may have an anchor, and an
alias stands for the node with its anchor. Anchors are numbers: a name that is given to an anchor
has the number of the names before it, so a name that is used again goes on to another number.

* `Node.ofText?` is the one document of a text; a text without a document is an empty one.
* A part that is not written is an empty plain scalar.
-/

namespace ContractLens.Yaml

/-- A node. -/
inductive Node where
  | scalar (anchor : Option Nat) (tag : Option (List UInt8)) (style : Style) (text : String)
  | sequence (anchor : Option Nat) (items : List Node)
  | mapping (anchor : Option Nat) (fields : List (Node × Node))
  /-- An alias, which stands for the node with this anchor. -/
  | reference (anchor : Nat)
deriving Repr

namespace Node

/-- A node that is not written. -/
def empty : Node := scalar none none .plain ""

/-! ## Trees -/

mutual

/-- The number of scalars, aliases, starts and ends of collections. -/
def size : Node → Nat
  | sequence _ items => sizeOfItems items + 2
  | mapping _ fields => sizeOfFields fields + 2
  | _ => 1
termination_by structural n => n

/-- The size of items. -/
def sizeOfItems : List Node → Nat
  | [] => 0
  | item :: rest => item.size + sizeOfItems rest
termination_by structural items => items

/-- The size of fields. -/
def sizeOfFields : List (Node × Node) → Nat
  | [] => 0
  | (key, value) :: rest => key.size + value.size + sizeOfFields rest
termination_by structural fields => fields

end

/-- The anchor of a node. -/
def anchor? : Node → Option Nat
  | scalar a .. | sequence a _ | mapping a _ => a
  | reference _ => none

mutual

/-- The nodes with an anchor in front of those in `done`, the last one first. -/
def anchored (done : List (Nat × Node)) : Node → List (Nat × Node)
  | scalar a tag style text => (a.map (·, scalar a tag style text)).toList ++ done
  | sequence a items => anchoredItems ((a.map (·, sequence a items)).toList ++ done) items
  | mapping a fields => anchoredFields ((a.map (·, mapping a fields)).toList ++ done) fields
  | reference _ => done
termination_by structural n => n

/-- The nodes with an anchor in items. -/
def anchoredItems (done : List (Nat × Node)) : List Node → List (Nat × Node)
  | [] => done
  | item :: rest => anchoredItems (item.anchored done) rest
termination_by structural items => items

/-- The nodes with an anchor in fields. -/
def anchoredFields (done : List (Nat × Node)) : List (Node × Node) → List (Nat × Node)
  | [] => done
  | (key, value) :: rest => anchoredFields (value.anchored (key.anchored done)) rest
termination_by structural fields => fields

end

/-! ## Composing -/

/-- What composing goes on with: the tokens that are left, what the handles of tags stand for, and
    the names of anchors with their numbers. -/
structure Composing where
  tokens : List Token
  handles : List (String × List UInt8)
  names : List (String × Nat)

/-- An activity that takes tokens, and may fail. -/
abbrev Compose := StateT Composing Option

namespace Compose

/-- The next token. -/
def peek? : Compose (Option Token) := do return (← get).tokens.head?

/-- Leaves out the next token. -/
def skip : Compose Unit := modify fun s => { s with tokens := s.tokens.tail }

/-- Takes this token. -/
def expect (t : Token) : Compose Unit := do
  if (← peek?) = some t then skip else failure

/-- An empty node in front of one of these tokens, and what is read otherwise. -/
def unlessAt (ends : List Token) (read : Compose Node) : Compose Node := do
  if (← peek?).any ends.contains then return .empty else read

/-- The value of a field in front of one of these tokens. -/
def fieldValue (ends : List Token) (read : Compose Node) : Compose Node := do
  if (← peek?) = some .value then
    skip
    unlessAt ends read
  else return .empty

/-- The number of an anchor with this name. -/
def nameAnchor (name : String) : Compose Nat := do
  let s ← get
  let number := s.names.length
  set { s with names := (name, number) :: s.names.filter (·.1 ≠ name) }
  return number

/-- The tag with its handle replaced by what it stands for. -/
def resolveTag (handle : String) (suffix : List UInt8) : Compose (List UInt8) := do
  if handle = "" then return suffix
  else
    match (← get).handles.lookup handle with
    | some meaning => return meaning ++ suffix
    | none => failure

/-- The name of an anchor, if there is one. -/
def anchorName? : Compose (Option String) := do
  match ← peek? with
  | some (.anchor name) =>
    skip
    return some name
  | _ => return none

/-- A tag, if there is one. -/
def tag? : Compose (Option (List UInt8)) := do
  match ← peek? with
  | some (.tag handle suffix) =>
    skip
    return some (← resolveTag handle suffix)
  | _ => return none

/-- The anchor and the tag of a node, in any order. -/
def properties : Compose (Option Nat × Option (List UInt8)) := do
  let first ← anchorName?
  let tag ← tag?
  let name ← if first.isNone && tag.isSome then anchorName? else pure first
  match name with
  | some name => return (some (← nameAnchor name), tag)
  | none => return (none, tag)

/-- Where a node stands: inside brackets, where it may be a collection without brackets, or where it
    may also be a sequence that is not indented. -/
inductive Slot where
  | flow
  | item
  | field
deriving DecidableEq, Repr

/-- The tokens behind an item that is not written. -/
def itemEnds : List Token := [.item, .blockEnd]

/-- The tokens behind an item that is not written, in a sequence that is not indented. -/
def flatItemEnds : List Token := [.item, .key, .value, .blockEnd]

/-- The tokens behind a key or value that is not written. -/
def fieldEnds : List Token := [.key, .value, .blockEnd]

/-- The tokens behind a value that is not written, in brackets. -/
def flowValueEnds (closing : Token) : List Token := [.comma, closing]

/-- The comma in front of all parts in brackets but the first. -/
def separator (first : Bool) : Compose Unit := if first then pure () else expect .comma

mutual

/-- A node. The first argument bounds the steps. -/
def node : Nat → Slot → Compose Node
  | 0, _ => failure
  | fuel + 1, slot => do
    match ← peek? with
    | some (.reference name) =>
      skip
      match (← get).names.lookup name with
      | some number => return .reference number
      | none => failure
    | _ =>
      let (anchor, tag) ← properties
      match ← peek?, slot with
      | some .item, .field => return .sequence anchor (← flatItems fuel)
      | some (.scalar style text), _ =>
        skip
        return .scalar anchor (tag.filter (· ≠ [0x21])) style text
      | some .openSequence, _ =>
        skip
        return .sequence anchor (← flowItems fuel true)
      | some .openMapping, _ =>
        skip
        return .mapping anchor (← flowFields fuel true)
      | some .blockSequence, .item | some .blockSequence, .field =>
        skip
        return .sequence anchor (← items fuel)
      | some .blockMapping, .item | some .blockMapping, .field =>
        skip
        return .mapping anchor (← fields fuel)
      | _, _ => if anchor.isSome || tag.isSome then return .scalar anchor tag .plain "" else failure

/-- The items of a sequence without brackets. -/
def items : Nat → Compose (List Node)
  | 0 => failure
  | fuel + 1 => do
    match ← peek? with
    | some .item =>
      skip
      let item ← unlessAt itemEnds (node fuel .item)
      return item :: (← items fuel)
    | some .blockEnd =>
      skip
      return []
    | _ => failure

/-- The items of a sequence that is not indented. It ends with the first token that is no item. -/
def flatItems : Nat → Compose (List Node)
  | 0 => failure
  | fuel + 1 => do
    match ← peek? with
    | some .item =>
      skip
      let item ← unlessAt flatItemEnds (node fuel .item)
      return item :: (← flatItems fuel)
    | _ => return []

/-- The fields of a mapping without brackets. -/
def fields : Nat → Compose (List (Node × Node))
  | 0 => failure
  | fuel + 1 => do
    match ← peek? with
    | some .key =>
      skip
      let key ← unlessAt fieldEnds (node fuel .field)
      let value ← fieldValue fieldEnds (node fuel .field)
      return (key, value) :: (← fields fuel)
    | some .blockEnd =>
      skip
      return []
    | _ => failure

/-- The items in brackets. A field by itself is a mapping; if its key is not written, the token that
    shows it belongs to the key. -/
def flowItems : Nat → Bool → Compose (List Node)
  | 0, _ => failure
  | fuel + 1, first => do
    if (← peek?) = some .closeSequence then
      skip
      return []
    else
      separator first
      match ← peek? with
      | some .closeSequence =>
        skip
        return []
      | some .key =>
        skip
        let key ← if (← peek?).any (.value :: flowValueEnds .closeSequence).contains then
            (do skip; return .empty)
          else node fuel .flow
        let value ← fieldValue (flowValueEnds .closeSequence) (node fuel .flow)
        return .mapping none [(key, value)] :: (← flowItems fuel false)
      | _ =>
        let item ← node fuel .flow
        return item :: (← flowItems fuel false)

/-- The fields in brackets. A node without a mark in front of it is a key without a value. -/
def flowFields : Nat → Bool → Compose (List (Node × Node))
  | 0, _ => failure
  | fuel + 1, first => do
    if (← peek?) = some .closeMapping then
      skip
      return []
    else
      separator first
      match ← peek? with
      | some .closeMapping =>
        skip
        return []
      | some .key =>
        skip
        let key ← unlessAt (.value :: flowValueEnds .closeMapping) (node fuel .flow)
        let value ← fieldValue (flowValueEnds .closeMapping) (node fuel .flow)
        return (key, value) :: (← flowFields fuel false)
      | _ =>
        let key ← node fuel .flow
        return (key, .empty) :: (← flowFields fuel false)

end

end Compose

/-! ## Documents -/

/-- The handles that every document has. -/
def standardHandles : List (String × List UInt8) :=
  [("!", [0x21]), ("!!", "tag:yaml.org,2002:".toUTF8.toList)]

/-- The handles that directives define, with those of `done`, up to the start of the document. There
    may be one version, which is known, and each handle is defined once. -/
def directives? (versioned : Bool) (done : List (String × List UInt8)) :
    List Token → Option (List (String × List UInt8) × List Token)
  | .version major minor :: rest =>
    if !versioned && major = 1 && (minor = 1 || minor = 2) then directives? true done rest else none
  | .handle name meaning :: rest =>
    if (done.lookup name).isNone then directives? versioned ((name, meaning) :: done) rest else none
  | .documentStart :: rest => some (done, rest)
  | _ => none

/-- Whether a document starts with a directive or a mark. -/
def startsMarked : List Token → Bool
  | .version .. :: _ | .handle .. :: _ | .documentStart :: _ => true
  | _ => false

/-- Whether a document ends before it has a node. -/
def endsAtOnce : List Token → Bool
  | [] | .documentEnd :: _ => true
  | tokens => startsMarked tokens

/-- The one document that the tokens are. -/
def ofTokens? (tokens : List Token) : Option Node := do
  let (handles, body) ←
    if startsMarked tokens then directives? false [] tokens else pure ([], tokens)
  if tokens.isEmpty || (startsMarked tokens && endsAtOnce body) then
    if (body.dropWhile (· == .documentEnd)).isEmpty then return empty else none
  else
    let start : Composing := ⟨body, handles ++ standardHandles, []⟩
    let (root, left) ← (Compose.node (2 * body.length + 2) .item).run start
    if (left.tokens.dropWhile (· == .documentEnd)).isEmpty then return root else none

/-- The one document of a text. -/
def ofText? (text : String) : Option Node := (Token.ofText? text).bind ofTokens?

end Node

end ContractLens.Yaml
