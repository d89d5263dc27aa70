import ContractLens.Text.Hex
import ContractLens.Yaml.Letter

/-!
# YAML scalars

The text of a scalar in each of its styles, read from the letters behind its first mark.

* `plainText?`: without quotes, up to a colon and a gap, a comment, or a line that is indented less.
* `quotedText?`: in double quotes with escapes, or in single quotes, where two stand for one.
* `blockText?`: on the lines below a mark, as they are or folded.

Inside plain and quoted scalars a gap with line breaks is folded: a single break is a space, and of
several ones the first is left out.
-/

namespace ContractLens.Yaml

/-- How a scalar is written. -/
inductive Style where
  | plain
  | quoted
  /-- A block whose lines are kept. -/
  | literal
  /-- A block whose lines are joined. -/
  | folded
deriving DecidableEq, Repr

/-- The text that a gap inside a scalar stands for. -/
def foldGap (gap : List Char) : List Char :=
  match gap.filter isBreak with
  | [] => gap
  | ['\n'] => [' ']
  | '\n' :: more => more
  | breaks => breaks

/-! ## Plain scalars -/

/-- A plain scalar that goes on behind `text` and `gap`, which are in reverse order. On its further
    lines it is indented up to the column `margin` at least, unless it stands in brackets. With the
    text comes whether a line break stands behind it. -/
def plainFrom? (flow : Bool) (margin : Nat) (text gap : List Char) :
    List Letter → Option (String × Bool × List Letter)
  | [] => some (String.ofList text.reverse, gap.any isBreak, [])
  | l :: rest =>
    if isGap l.char then
      if l.char = '\t' && l.column < margin && gap.any isBreak then none
      else plainFrom? flow margin text (l.char :: gap) rest
    else
      let left := !flow && l.column < margin
      if !gap.isEmpty && (left || l.char = '#' || atDocumentMark (l :: rest)) then
        some (String.ofList text.reverse, gap.any isBreak, l :: rest)
      else if flow && l.char = ':' && atOneOf ",?[]\x7b\x7d" rest then none
      else if (l.char = ':' && atGap rest) || (flow && isFlowMark l.char) then
        some (String.ofList text.reverse, gap.any isBreak, l :: rest)
      else plainFrom? flow margin (l.char :: ((foldGap gap.reverse).reverse ++ text)) [] rest

/-- A plain scalar, whether a line break stands behind it, and the rest. -/
def plainText? (flow : Bool) (margin : Nat) (ls : List Letter) :
    Option (String × Bool × List Letter) :=
  plainFrom? flow margin [] [] ls

/-! ## Quoted scalars -/

/-- The character that a letter behind a backslash stands for. -/
def escape? : Char → Option Char
  | '0' => some '\x00'
  | 'a' => some '\x07'
  | 'b' => some '\x08'
  | 't' => some '\t'
  | '\t' => some '\t'
  | 'n' => some '\n'
  | 'v' => some '\x0b'
  | 'f' => some '\x0c'
  | 'r' => some '\r'
  | 'e' => some '\x1b'
  | ' ' => some ' '
  | '"' => some '"'
  | '/' => some '/'
  | '\\' => some '\\'
  | 'N' => some '\u0085'
  | '_' => some '\u00a0'
  | 'L' => some '\u2028'
  | 'P' => some '\u2029'
  | _ => none

/-- How many hex digits follow a letter behind a backslash. -/
def codeLength? : Char → Option Nat
  | 'x' => some 2
  | 'u' => some 4
  | 'U' => some 8
  | _ => none

/-- What the reading of a quoted scalar is in the middle of. -/
inductive Quoting where
  | text
  /-- A gap in reverse order; its first line break may be escaped, which leaves it out. -/
  | gap (escaped : Bool) (read : List Char)
  /-- Behind a backslash. -/
  | backslash
  /-- Hex digits of a character, of which some are left. -/
  | code (left value : Nat)

/-- The text of the gap that ends here. -/
def Quoting.gapText : Quoting → List Char
  | .gap true read => (read.filter isBreak).reverse
  | .gap false read => foldGap read.reverse
  | _ => []

/-- The gap with one more character. -/
def Quoting.widen (c : Char) : Quoting → Quoting
  | .gap escaped read => .gap escaped (c :: read)
  | _ => .gap false [c]

/-- Whether a gap ends here. -/
def Quoting.isGap : Quoting → Bool
  | .gap .. => true
  | _ => false

/-- A quoted scalar that goes on behind `text`, which is in reverse order. -/
def quotedFrom? (quote : Char) : Quoting → List Char → List Letter → Option (String × List Letter)
  | _, _, [] => none
  | .code left value, text, l :: rest =>
    match Hex.digitValue? l.char with
    | none => none
    | some d =>
      let n := 16 * value + d
      if 1 < left then quotedFrom? quote (.code (left - 1) n) text rest
      else if n.isValidChar then quotedFrom? quote .text (Char.ofNat n :: text) rest
      else none
  | .backslash, text, l :: rest =>
    if isBreak l.char then quotedFrom? quote (.gap true []) text rest
    else
      match escape? l.char, codeLength? l.char with
      | some c, _ => quotedFrom? quote .text (c :: text) rest
      | none, some count => quotedFrom? quote (.code count 0) text rest
      | none, none => none
  | state, text, l :: rest =>
    if isGap l.char then quotedFrom? quote (state.widen l.char) text rest
    else if state.isGap && atDocumentMark (l :: rest) then none
    else
      let text := state.gapText.reverse ++ text
      if l.char = quote then
        match rest with
        | [] => some (String.ofList text.reverse, [])
        | m :: more =>
          if quote = '\'' && m.char = '\'' then quotedFrom? quote .text ('\'' :: text) more
          else some (String.ofList text.reverse, m :: more)
      else if quote = '"' && l.char = '\\' then quotedFrom? quote .backslash text rest
      else quotedFrom? quote .text (l.char :: text) rest

/-- A quoted scalar behind its opening quote, and the rest. -/
def quotedText? (quote : Char) (ls : List Letter) : Option (String × List Letter) :=
  quotedFrom? quote .text [] ls

/-! ## Block scalars -/

/-- What is kept of the line breaks behind the last line. -/
inductive Chomping where
  | strip
  /-- The first one. -/
  | clip
  | keep
deriving DecidableEq, Repr

/-- The mark of what is kept, if there is one. -/
def spanChomping : List Letter → Option Chomping × List Letter
  | [] => (none, [])
  | l :: rest =>
    if l.char = '+' then (some .keep, rest)
    else if l.char = '-' then (some .strip, rest)
    else (none, l :: rest)

/-- The digit of how far a block is indented, if there is one. It is not zero. -/
def spanIndent? : List Letter → Option (Option Nat × List Letter)
  | [] => some (none, [])
  | l :: rest =>
    if l.char = '0' then none
    else if l.char.isDigit then some (some (l.char.toNat - 0x30), rest)
    else some (none, l :: rest)

/-- The line of a block's mark: what is kept, how far the block is indented if that is given, and
    the lines below. Either may stand in front of the other. -/
def blockHeader? (ls : List Letter) : Option (Chomping × Option Nat × List Letter) := do
  let (first, ls) := spanChomping ls
  let (indent, ls) ← spanIndent? ls
  let (second, ls) := if first.isNone && indent.isSome then spanChomping ls else (none, ls)
  let ls ← afterLine? ls
  return ((first.or second).getD .clip, indent, ls)

/-- The column of the first character that is no space or line break, or of the longest empty line
    in front of it if that is longer. A tab may not stand there. -/
def deepestColumn? (deepest : Nat) : List Letter → Option Nat
  | [] => some deepest
  | l :: rest =>
    if l.char = ' ' then deepestColumn? (max deepest (l.column + 1)) rest
    else if isBreak l.char then deepestColumn? deepest rest
    else if l.char = '\t' then none
    else some deepest

/-- A block up to some place: its text, the line break behind it, and those of the empty lines since
    then, all in reverse order; whether its last line starts with a blank; and whether that line
    still goes on. -/
structure Block where
  text : List Char
  lineBreak : List Char
  emptyLines : List Char
  indented : Bool
  inLine : Bool

namespace Block

/-- Nothing read. -/
def empty : Block := ⟨[], [], [], false, false⟩

/-- A line that starts with this character. Where lines are folded, the break between two lines that
    start with no blank is a space, or it is left out if empty lines follow. -/
def startLine (b : Block) (folded : Bool) (c : Char) : Block :=
  let joins := folded && b.lineBreak == ['\n'] && !b.indented && !isBlank c
  let between :=
    if joins then (if b.emptyLines.isEmpty then [' '] else b.emptyLines)
    else b.emptyLines ++ b.lineBreak
  ⟨c :: (between ++ b.text), [], [], isBlank c, true⟩

/-- The lines that are indented up to the column `indent`. -/
def lines? (folded : Bool) (indent : Nat) (b : Block) : List Letter → Option (Block × List Letter)
  | [] => some (b, [])
  | l :: rest =>
    if b.inLine then
      if isBreak l.char then
        lines? folded indent { b with lineBreak := [l.char], inLine := false } rest
      else lines? folded indent { b with text := l.char :: b.text } rest
    else if l.column < indent && l.char = ' ' then lines? folded indent b rest
    else if l.column < indent && l.char = '\t' then none
    else if isBreak l.char then
      lines? folded indent { b with emptyLines := l.char :: b.emptyLines } rest
    else if l.column = indent then lines? folded indent (b.startLine folded l.char) rest
    else some (b, l :: rest)

/-- The text of a block that ends here. -/
def finish (b : Block) (chomping : Chomping) : String :=
  let ending := match chomping with
    | .strip => []
    | .clip => b.lineBreak
    | .keep => b.emptyLines ++ b.lineBreak
  String.ofList (ending ++ b.text).reverse

end Block

/-- A block scalar behind its mark, in a place where blocks are indented up to `margin` at least. -/
def blockText? (folded : Bool) (margin : Nat) (ls : List Letter) :
    Option (String × List Letter) := do
  let (chomping, given, ls) ← blockHeader? ls
  let indent ← match given with
    | some n => pure (margin - 1 + n)
    | none => do pure (max (← deepestColumn? 0 ls) (max margin 1))
  let (block, rest) ← Block.empty.lines? folded indent ls
  return (block.finish chomping, rest)

end ContractLens.Yaml
