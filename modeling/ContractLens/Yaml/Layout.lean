import ContractLens.Yaml.Token

/-!
# Layout of YAML text

Where collections without brackets start and end. A `Layout` is what was read so far: the tokens,
the columns of the collections that are open, and the place where a key may have started. Only at
the colon behind a key it is known to be one; the tokens of its mapping are then put in front of it.

* A simple key stands on the line of its colon, at most `maxKeyLength` characters in front of it.
* A collection ends where a line is indented less.
* `Token.ofText?` is the list of all tokens of a text.
-/

namespace ContractLens.Yaml

/-- A place where a key may have started. -/
structure PossibleKey where
  /-- Whether nothing but a key may stand there. -/
  required : Bool
  /-- The number of tokens in front of it. -/
  position : Nat
  start : Place
deriving DecidableEq, Repr

/-- How far a key may be from its colon. -/
def maxKeyLength : Nat := 1024

/-- What was read of a text. -/
structure Layout where
  /-- The tokens in reverse order. -/
  tokens : List Token
  /-- The number of tokens. -/
  count : Nat
  /-- The columns of the open collections without brackets, innermost first. -/
  columns : List Nat
  /-- Where a key may have started inside the innermost brackets. -/
  key : Option PossibleKey
  /-- The same outside of each of the open brackets, innermost first. -/
  outerKeys : List (Option PossibleKey)
  /-- Whether a key may start here. -/
  keyAllowed : Bool

namespace Layout

/-- Nothing read. -/
def start : Layout := ⟨[], 0, [], none, [], true⟩

/-- Whether brackets are open. -/
def flow (s : Layout) : Bool := !s.outerKeys.isEmpty

/-- The least column of what belongs to the innermost collection. -/
def margin (s : Layout) : Nat := (s.columns.head?.map (· + 1)).getD 0

/-- One more token. -/
def put (s : Layout) (t : Token) : Layout :=
  { s with tokens := t :: s.tokens, count := s.count + 1 }

/-- One more token with this number of tokens in front of it. -/
def insert (s : Layout) (position : Nat) (t : Token) : Layout :=
  let behind := s.count - position
  { s with
    tokens := s.tokens.take behind ++ t :: s.tokens.drop behind
    count := s.count + 1 }

/-! ## Collections without brackets -/

/-- The innermost collections end as long as their columns are so. Inside brackets none ends. -/
def leave (s : Layout) (ends : Nat → Bool) : Layout :=
  if s.flow then s
  else
    let ended := s.columns.takeWhile ends
    { s with
      tokens := List.replicate ended.length .blockEnd ++ s.tokens
      count := s.count + ended.length
      columns := s.columns.dropWhile ends }

/-- A collection starts in this column, unless it goes on there or brackets are open. Its token has
    this number of tokens in front of it. -/
def enter (s : Layout) (column position : Nat) (t : Token) : Layout :=
  if s.flow || column < s.margin then s
  else { s.insert position t with columns := column :: s.columns }

/-! ## Keys -/

/-- What was a possible key is none. This fails if it had to be one. -/
def dropKey? (s : Layout) : Option Layout :=
  match s.key with
  | some k => if k.required then none else some { s with key := none }
  | none => some s

/-- A possible key ends with its line, and when it gets too long. -/
def dropStaleKey? (s : Layout) (p : Place) : Option Layout :=
  match s.key with
  | some k =>
    if k.start.line < p.line || k.start.index + maxKeyLength < p.index then s.dropKey? else some s
  | none => some s

/-- A key may start in this place. It has to where the parts of a mapping are lined up. -/
def saveKey? (s : Layout) (p : Place) : Option Layout :=
  if s.keyAllowed then
    s.dropKey?.map fun s =>
      { s with key := some ⟨!s.flow && s.margin == p.column + 1, s.count, p⟩ }
  else some s

/-- What starts in this place may be a key, behind which no other one may start. -/
def startNode? (s : Layout) (p : Place) : Option Layout :=
  (s.saveKey? p).map fun s => { s with keyAllowed := false }

/-! ## Marks -/

/-- All collections without brackets end. -/
def finish? (s : Layout) : Option Layout :=
  (s.leave fun _ => true).dropKey?.map fun s => { s with keyAllowed := false }

/-- An opening bracket. -/
def openBracket? (s : Layout) (p : Place) (t : Token) : Option Layout :=
  (s.saveKey? p).map fun s =>
    { s with key := none, outerKeys := s.key :: s.outerKeys, keyAllowed := true }.put t

/-- A closing bracket. -/
def closeBracket? (s : Layout) (t : Token) : Option Layout :=
  s.dropKey?.map fun s =>
    let s := { s with keyAllowed := false }.put t
    match s.outerKeys with
    | key :: outer => { s with key, outerKeys := outer }
    | [] => s

/-- A mark that may stand without brackets only where a key may start; there it starts a collection
    with the token `start`. -/
def mark? (s : Layout) (p : Place) (start t : Token) (keyAllowed : Bool) : Option Layout :=
  if s.flow || s.keyAllowed then
    (s.enter p.column s.count start).dropKey?.map fun s => { s with keyAllowed }.put t
  else none

/-- The colon in front of a value. If there is a possible key, it is one, and its mapping starts
    with it unless it goes on there. -/
def colon? (s : Layout) (p : Place) : Option Layout :=
  match s.key with
  | some k =>
    let s := (s.insert k.position .key).enter k.start.column k.position .blockMapping
    some ({ s with key := none, keyAllowed := false }.put .value)
  | none => s.mark? p .blockMapping .value !s.flow

/-! ## Reading -/

/-- A word with a token of its own. -/
def word? (s : Layout) (p : Place) (read : Option (Token × List Letter)) :
    Option (Layout × List Letter) := do
  let s ← s.startNode? p
  let (t, rest) ← read
  return (s.put t, rest)

/-- A plain scalar. Behind a line break that ends it a key may start. -/
def plain? (s : Layout) (l : Letter) (rest : List Letter) : Option (Layout × List Letter) := do
  let s ← s.startNode? l.toPlace
  let (text, broken, rest) ← plainText? s.flow s.margin (l :: rest)
  return ({ s with keyAllowed := broken }.put (.scalar .plain text), rest)

/-- A block scalar. -/
def block? (s : Layout) (folded : Bool) (rest : List Letter) : Option (Layout × List Letter) := do
  let s ← s.dropKey?
  let (text, rest) ← blockText? folded s.margin rest
  return ({ s with keyAllowed := true }.put (.scalar (if folded then .folded else .literal) text),
    rest)

/-- Whether a plain scalar may start with this letter. -/
def startsPlain (s : Layout) (c : Char) (rest : List Letter) : Bool :=
  if c = '-' then !atOneOf " \t" rest
  else if c = '?' || c = ':' then !s.flow && !atGap rest
  else !isGap c && !isFlowMark c && !"#&*!|>'\"%@\x60".toList.contains c

/-- The token that starts with a letter, and the letters behind it. -/
def step? (s : Layout) (l : Letter) (rest : List Letter) : Option (Layout × List Letter) := do
  let s ← s.dropStaleKey? l.toPlace
  let s := s.leave (l.column < ·)
  let lineStart := l.column = 0
  if lineStart && l.char = '%' then
    let (t, rest) ← Token.directive? rest
    return ((← s.finish?).put t, rest)
  else if atTriple '-' (l :: rest) then
    return ((← s.finish?).put .documentStart, rest.drop 2)
  else if atTriple '.' (l :: rest) then
    return ((← s.finish?).put .documentEnd, rest.drop 2)
  else
    match l.char with
    | '[' => return (← s.openBracket? l.toPlace .openSequence, rest)
    | '\x7b' => return (← s.openBracket? l.toPlace .openMapping, rest)
    | ']' => return (← s.closeBracket? .closeSequence, rest)
    | '\x7d' => return (← s.closeBracket? .closeMapping, rest)
    | ',' => return ({ ← s.dropKey? with keyAllowed := true }.put .comma, rest)
    | '*' => s.word? l.toPlace ((Token.anchorName? rest).map fun (n, rest) => (.reference n, rest))
    | '&' => s.word? l.toPlace ((Token.anchorName? rest).map fun (n, rest) => (.anchor n, rest))
    | '!' => s.word? l.toPlace (Token.tag? s.flow rest)
    | '\'' | '"' =>
      s.word? l.toPlace
        ((quotedText? l.char rest).map fun (text, rest) => (.scalar .quoted text, rest))
    | c =>
      if c = '-' && atGap rest then
        return (← s.mark? l.toPlace .blockSequence .item true, rest)
      else if c = '?' && (s.flow || atGap rest) then
        return (← s.mark? l.toPlace .blockMapping .key !s.flow, rest)
      else if c = ':' && (s.flow || atGap rest) then return (← s.colon? l.toPlace, rest)
      else if c = '|' && !s.flow then s.block? false rest
      else if c = '>' && !s.flow then s.block? true rest
      else if s.startsPlain c rest then s.plain? l rest
      else none

/-- The letters behind blanks, line breaks and comments, and whether a key may start there. Outside
    of brackets one may start on a new line, and no tab may stand where one may start. -/
def skipGap (flow keyAllowed comment : Bool) : List Letter → Bool × List Letter
  | [] => (keyAllowed, [])
  | l :: rest =>
    if isBreak l.char then skipGap flow (keyAllowed || !flow) false rest
    else if comment || l.char = ' ' || (l.char = '\t' && (flow || !keyAllowed)) ||
        (l.char = byteOrderMark && l.column = 0) then
      skipGap flow keyAllowed comment rest
    else if l.char = '#' then skipGap flow keyAllowed true rest
    else (keyAllowed, l :: rest)

/-- All letters. The first argument bounds the number of tokens that start with a letter. -/
def run? : Nat → Layout → List Letter → Option Layout
  | 0, _, _ => none
  | fuel + 1, s, ls =>
    match skipGap s.flow s.keyAllowed false ls with
    | (_, []) => s.finish?
    | (keyAllowed, l :: rest) =>
      match { s with keyAllowed }.step? l rest with
      | some (s, rest) => run? fuel s rest
      | none => none

end Layout

/-- The tokens of a text. Each one that starts with a letter takes at least that one. -/
def Token.ofText? (text : String) : Option (List Token) :=
  (Letter.ofText? text).bind fun ls =>
    (Layout.start.run? (ls.length + 1) ls).map (·.tokens.reverse)

end ContractLens.Yaml
