import ContractLens.Text.Natural
import ContractLens.Yaml.Scalar

/-!
# YAML tokens

The parts of a YAML text: directives, marks of documents, the starts and ends of collections, the
marks in front of their parts, and what a node is made of. Collections without brackets have a start
and an end as well, which follow from the indentation.

This module reads the parts that are words by themselves: names of anchors, tags and directives.
-/

namespace ContractLens.Yaml

/-- A token. -/
inductive Token where
  /-- The version of the language that a text is written in. -/
  | version (major minor : Nat)
  /-- What a handle in front of tags stands for. -/
  | handle (name : String) (meaning : List UInt8)
  | documentStart
  | documentEnd
  | blockSequence
  | blockMapping
  | blockEnd
  | openSequence
  | closeSequence
  | openMapping
  | closeMapping
  /-- The dash in front of an item. -/
  | item
  | comma
  /-- In front of a key. It is written only where a key is no simple one. -/
  | key
  | value
  /-- An alias, which stands for the node with the anchor of this name. -/
  | reference (name : String)
  | anchor (name : String)
  /-- A tag. One that needs no looking up has an empty handle. -/
  | tag (handle : String) (suffix : List UInt8)
  | scalar (style : Style) (text : String)
deriving DecidableEq, Repr

namespace Token

/-! ## Names -/

/-- A name, which may be empty, and the rest. -/
def spanName (ls : List Letter) : String × List Letter :=
  (String.ofList ((ls.takeWhile (isNameLetter ·.char)).map (·.char)),
    ls.dropWhile (isNameLetter ·.char))

/-- The name of an anchor and the rest. -/
def anchorName? (ls : List Letter) : Option (String × List Letter) :=
  let (name, rest) := spanName ls
  if name ≠ "" && (atGap rest || atOneOf "?:,]\x7d%@\x60" rest) then some (name, rest) else none

/-! ## Tags -/

/-- Whether a character may stand in a tag; in angle brackets also commas and brackets. -/
def isTagLetter (bracketed : Bool) (c : Char) : Bool :=
  isNameLetter c || ";/?:@&=+$.!~*'()".toList.contains c || (bracketed && ",[]".toList.contains c)

/-- How many bytes follow the first byte of a character. -/
def following? (b : Nat) : Option Nat :=
  if b < 0x80 then some 0
  else if b < 0xc0 then none
  else if b < 0xe0 then some 1
  else if b < 0xf0 then some 2
  else if b < 0xf8 then some 3
  else none

/-- The bytes of a tag behind those in `done`, which are in reverse order. A percent sign and two
    hex digits are one byte; `owed` bytes of that kind have to come next. -/
def tagFrom? (bracketed : Bool) (owed : Nat) (done : List UInt8) :
    List Letter → Option (List UInt8 × List Letter)
  | [] => if owed = 0 then some (done.reverse, []) else none
  | l :: rest =>
    if l.char = '%' then
      match rest with
      | a :: b :: rest =>
        match Hex.digitValue? a.char, Hex.digitValue? b.char with
        | some x, some y =>
          let n := 16 * x + y
          if owed = 0 then
            match following? n with
            | some more => tagFrom? bracketed more (UInt8.ofNat n :: done) rest
            | none => none
          else if 0x80 ≤ n && n < 0xc0 then
            tagFrom? bracketed (owed - 1) (UInt8.ofNat n :: done) rest
          else none
        | _, _ => none
      | _ => none
    else if 0 < owed then none
    else if isTagLetter bracketed l.char then
      tagFrom? bracketed 0 (UInt8.ofNat l.char.toNat :: done) rest
    else some (done.reverse, l :: rest)

/-- One or more bytes of a tag. -/
def tagBytes? (bracketed : Bool) (ls : List Letter) : Option (List UInt8 × List Letter) :=
  (tagFrom? bracketed 0 [] ls).filter fun (bytes, _) => !bytes.isEmpty

/-- A tag behind its exclamation mark: in angle brackets, behind a handle that ends with another
    exclamation mark, or plain. An exclamation mark by itself is a tag of its own. -/
def tagWord? (ls : List Letter) : Option (Token × List Letter) :=
  if atOneOf "<" ls then
    match tagBytes? true ls.tail with
    | some (bytes, l :: rest) => if l.char = '>' then some (tag "" bytes, rest) else none
    | _ => none
  else
    let (name, rest) := spanName ls
    if atOneOf "!" rest then
      (tagBytes? false rest.tail).map fun (bytes, rest) => (tag ("!" ++ name ++ "!") bytes, rest)
    else
      (tagFrom? false 0 [] ls).map fun (bytes, rest) =>
        (if bytes.isEmpty then tag "" [0x21] else tag "!" bytes, rest)

/-- A tag behind its exclamation mark, and the rest. A gap has to follow, or a comma in brackets. -/
def tag? (flow : Bool) (ls : List Letter) : Option (Token × List Letter) :=
  (tagWord? ls).filter fun (_, rest) => atGap rest || (flow && atOneOf "," rest)

/-! ## Directives -/

/-- A number of up to nine digits. -/
def spanNumber? (ls : List Letter) : Option (Nat × List Letter) :=
  let digits := (ls.takeWhile (·.char.isDigit)).map (·.char)
  if 9 < digits.length then none
  else (Natural.digits? 10 digits).map (·, ls.dropWhile (·.char.isDigit))

/-- A version: two numbers with a point between them. -/
def version? (ls : List Letter) : Option (Token × List Letter) := do
  let (major, ls) ← spanNumber? ls
  if atOneOf "." ls then
    let (minor, ls) ← spanNumber? ls.tail
    return (version major minor, ls)
  else none

/-- A handle behind its first exclamation mark: nothing, or a name and another exclamation mark. -/
def handleName? (ls : List Letter) : Option (String × List Letter) :=
  let (name, rest) := spanName ls
  if atOneOf "!" rest then some ("!" ++ name ++ "!", rest.tail)
  else if name = "" then some ("!", rest)
  else none

/-- The letters behind blanks. -/
def skipBlanks (ls : List Letter) : List Letter := ls.dropWhile (isBlank ·.char)

/-- A handle and what it stands for. -/
def handle? (ls : List Letter) : Option (Token × List Letter) := do
  if !atOneOf "!" ls then none
  let (name, ls) ← handleName? ls.tail
  if !atOneOf " \t" ls then none
  let (bytes, ls) ← tagBytes? true (skipBlanks ls)
  if !atGap ls then none
  return (handle name bytes, ls)

/-- The directive on a line behind its percent sign, and the lines below. -/
def directive? (ls : List Letter) : Option (Token × List Letter) := do
  let (name, ls) := spanName ls
  if !atGap ls then none
  let (t, ls) ←
    if name = "YAML" then version? (skipBlanks ls)
    else if name = "TAG" then handle? (skipBlanks ls)
    else none
  return (t, ← afterLine? ls)

end Token

end ContractLens.Yaml
