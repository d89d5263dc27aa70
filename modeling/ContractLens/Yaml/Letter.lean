/-!
# Characters of a YAML text

A YAML text is read as a list of letters: each character together with the place where it stands.
What a character means depends on how far it is indented, and a key has to be near its colon, so the
place stays with it.

* `Letter.ofText?` takes a text apart. It may hold no control characters but tabs and line breaks.
* A line ends with a line feed, a carriage return, both together or the next-line character, which
  all become line feeds, or with one of the two separators of Unicode, which stay as they are.
-/

namespace ContractLens.Yaml

/-! ## Kinds of characters -/

/-- Whether a character ends a line. -/
def isBreak (c : Char) : Bool := c == '\n' || c == '\u2028' || c == '\u2029'

/-- Whether a character is a space or a tab. -/
def isBlank (c : Char) : Bool := c == ' ' || c == '\t'

/-- Whether a character is a blank or ends a line. -/
def isGap (c : Char) : Bool := isBlank c || isBreak c

/-- Whether a character may stand in the name of an anchor, of a directive or of tags. -/
def isNameLetter (c : Char) : Bool := c.isAlphanum || c == '_' || c == '-'

/-- Whether a character divides the parts of a collection in brackets. -/
def isFlowMark (c : Char) : Bool := ",[]\x7b\x7d".toList.contains c

/-- The mark of byte order, which may start a line. -/
def byteOrderMark : Char := '\ufeff'

/-- Whether a text may hold a character. -/
def isAllowed (c : Char) : Bool :=
  let n := c.toNat
  n == 0x09 || n == 0x0a || n == 0x0d || (0x20 ≤ n && n ≤ 0x7e) || n == 0x85 ||
    (0xa0 ≤ n && n ≤ 0xfffd) || 0x10000 ≤ n

/-! ## Places -/

/-- A place in a text: the number of characters in front of it, its line and its column. -/
structure Place where
  index : Nat
  line : Nat
  column : Nat
deriving DecidableEq, Repr

/-- The place behind a character. -/
def Place.after (p : Place) (c : Char) : Place :=
  if isBreak c then ⟨p.index + 1, p.line + 1, 0⟩ else ⟨p.index + 1, p.line, p.column + 1⟩

/-- A character and where it stands. -/
structure Letter extends Place where
  char : Char
deriving DecidableEq, Repr

namespace Letter

/-- What was placed so far: the letters in reverse order, the next place, and whether a carriage
    return stands in front of it. -/
structure Placing where
  letters : List Letter
  next : Place
  afterReturn : Bool

/-- One character. A line feed behind a carriage return belongs to it. -/
def Placing.put (p : Placing) (c : Char) : Placing :=
  if c = '\n' && p.afterReturn then { p with afterReturn := false }
  else
    let unified := if c = '\r' || c = '\u0085' then '\n' else c
    ⟨⟨p.next, unified⟩ :: p.letters, p.next.after unified, c = '\r'⟩

/-- The letters of a text, if it may hold all of its characters. -/
def ofText? (s : String) : Option (List Letter) :=
  if s.toList.all isAllowed then
    some (s.toList.foldl Placing.put ⟨[], ⟨0, 0, 0⟩, false⟩).letters.reverse
  else none

end Letter

/-! ## What comes next -/

/-- Whether a blank, a line break or the end of the text comes next. -/
def atGap : List Letter → Bool
  | [] => true
  | l :: _ => isGap l.char

/-- Whether one of these characters comes next. -/
def atOneOf (cs : String) : List Letter → Bool
  | [] => false
  | l :: _ => cs.toList.contains l.char

/-- Whether a line starts here with a character three times and a gap behind it. -/
def atTriple (c : Char) : List Letter → Bool
  | l :: m :: n :: rest => l.column == 0 && [l, m, n].all (·.char == c) && atGap rest
  | _ => false

/-- Whether a line starts here with the mark of a document's start or end. -/
def atDocumentMark (ls : List Letter) : Bool := atTriple '-' ls || atTriple '.' ls

/-- The text behind the end of the line, where only blanks and a comment may stand in front of
    it. -/
def afterLine? (ls : List Letter) : Option (List Letter) :=
  match ls.dropWhile (isBlank ·.char) with
  | [] => some []
  | l :: rest =>
    match if l.char = '#' then rest.dropWhile (!isBreak ·.char) else l :: rest with
    | [] => some []
    | l :: rest => if isBreak l.char then some rest else none

end ContractLens.Yaml
