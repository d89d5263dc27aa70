import ContractLens.Decimal.Binary64

/-!
# JSON tokens

The lexical level of JSON text: punctuation, strings, numbers and the three words. `tokens?` runs a
machine with one step per character. A string may hold no control character below the space, and a
number follows the JSON grammar. A string in which an escaped surrogate is without its partner and a
number beyond binary64 are tokens without a value.
-/

namespace ContractLens.Json

/-- The number of a JSON text: a whole number that fits 64 bits, or a binary64 number. -/
inductive Number where
  | int (n : Int)
  | real (bits : UInt64)
  /-- A number that is too large for binary64. -/
  | beyond

/-- A token of JSON text. A string has no text if it holds half of a surrogate pair. -/
inductive Token where
  | openArray
  | closeArray
  | openObject
  | closeObject
  | colon
  | comma
  | string (text : Option String)
  | number (n : Number)
  | true
  | false
  | null

namespace Number

/-! ## Numbers -/

/-- Decimal digits in front of the rest of a text. -/
def spanDigits (cs : List Char) : List Char × List Char :=
  (cs.takeWhile Char.isDigit, cs.dropWhile Char.isDigit)

/-- The value of a decimal digit. -/
def digit (c : Char) : Nat := c.toNat - 0x30

/-- Digits of the whole part taken into a significand as long as it fits 64 bits. From the first
    digit that does not fit on, digits only count. -/
def wholeDigits : Nat → List Char → Nat × Nat
  | significand, [] => (significand, 0)
  | significand, c :: rest =>
    if 10 * significand + digit c < Nat.pow 2 64 then wholeDigits (10 * significand + digit c) rest
    else (significand, rest.length + 1)

/-- Digits of the fraction taken into the significand as long as it fits 64 bits, and how many were
    taken. Later digits are dropped. -/
def fractionDigits : Nat → List Char → Nat × Nat
  | significand, [] => (significand, 0)
  | significand, c :: rest =>
    if 10 * significand + digit c < Nat.pow 2 64 then
      let (s, n) := fractionDigits (10 * significand + digit c) rest
      (s, n + 1)
    else (significand, 0)

/-- The binary64 number `± significand · 10 ^ exponent`. -/
def ofScaled (negative : Bool) (significand : Nat) (exponent : Int) : Number :=
  match Binary64.scale? (UInt64.ofNat significand).toFloat exponent with
  | some x => .real (if negative then -x else x).toBits
  | none => .beyond

/-- The exponent behind `e` or `E`: an optional sign and one or more digits. -/
def exponent? (cs : List Char) : Option Int :=
  let (negative, ds) := match cs with
    | '-' :: rest => (Bool.true, rest)
    | '+' :: rest => (Bool.false, rest)
    | rest => (Bool.false, rest)
  match spanDigits ds with
  | (d :: more, []) =>
    let n := (d :: more).foldl (fun acc c => 10 * acc + digit c) 0
    some (if negative then -(n : Int) else n)
  | _ => none

/-- A number without its sign. A whole number becomes a binary64 number when it does not fit 64 bits
    or is a negative zero. -/
def ofUnsigned? (negative : Bool) (cs : List Char) : Option Number :=
  match spanDigits cs with
  | ([], _) => none
  | ('0' :: _ :: _, _) => none
  | (whole, rest) =>
    let (significand, dropped) := wholeDigits 0 whole
    match rest with
    | [] =>
      if dropped = 0 ∧ !negative then some (.int significand)
      else if dropped = 0 ∧ 0 < significand ∧ significand ≤ Nat.pow 2 63 then some (.int (-significand))
      else some (ofScaled negative significand dropped)
    | '.' :: rest =>
      match spanDigits rest with
      | ([], _) => none
      | (fraction, rest) =>
        let (significand, taken) := fractionDigits significand fraction
        let place : Int := (dropped : Int) - taken
        match rest with
        | [] => some (ofScaled negative significand place)
        | e :: rest =>
          if e = 'e' ∨ e = 'E' then
            (exponent? rest).map fun x => ofScaled negative significand (place + x)
          else none
    | e :: rest =>
      if e = 'e' ∨ e = 'E' then
        (exponent? rest).map fun x => ofScaled negative significand (dropped + x)
      else none

/-- The number that a text stands for. -/
def ofChars? : List Char → Option Number
  | '-' :: cs => ofUnsigned? Bool.true cs
  | cs => ofUnsigned? Bool.false cs

end Number

/-! ## Strings -/

/-- A part of a string: a character, or a code of four hex digits. -/
inductive Part where
  | char (c : Char)
  | code (n : Nat)

/-- Whether a code is the first of a surrogate pair. -/
def isHighSurrogate (n : Nat) : Bool := 0xd800 ≤ n && n < 0xdc00

/-- Whether a code is the second of a surrogate pair. -/
def isLowSurrogate (n : Nat) : Bool := 0xdc00 ≤ n && n < 0xe000

/-- The characters that parts stand for. Surrogates have to come in pairs. -/
def joinParts? : List Part → Option (List Char)
  | [] => some []
  | .char c :: rest => (joinParts? rest).map (c :: ·)
  | .code high :: .code low :: rest =>
    if isHighSurrogate high && isLowSurrogate low then
      (joinParts? rest).map
        (Char.ofNat (0x10000 + (high - 0xd800) * 0x400 + (low - 0xdc00)) :: ·)
    else if isHighSurrogate high || isLowSurrogate high then none
    else (joinParts? (.code low :: rest)).map (Char.ofNat high :: ·)
  | .code n :: rest =>
    if isHighSurrogate n || isLowSurrogate n then none
    else (joinParts? rest).map (Char.ofNat n :: ·)

/-- The token of a string with these parts. -/
def stringToken (parts : List Part) : Token := .string ((joinParts? parts).map String.ofList)

/-! ## The machine -/

/-- What the machine is in the middle of. What was read so far stands in reverse order. -/
inductive Lexing where
  /-- Between two tokens. -/
  | between
  /-- Inside a string. -/
  | inString (read : List Part)
  /-- Behind a backslash. -/
  | escaped (read : List Part)
  /-- Inside the four digits behind `\u`. -/
  | codeDigits (read : List Part) (count value : Nat)
  /-- Inside a number or a word. -/
  | inWord (read : List Char)

/-- The character that a backslash and this character stand for. -/
def unescape? : Char → Option Char
  | '"' => some '"'
  | '\\' => some '\\'
  | '/' => some '/'
  | 'b' => some '\x08'
  | 'f' => some '\x0c'
  | 'n' => some '\n'
  | 'r' => some '\r'
  | 't' => some '\t'
  | _ => none

/-- The value of a hex digit. -/
def codeDigit? (c : Char) : Option Nat :=
  if '0' ≤ c ∧ c ≤ '9' then some (c.toNat - 0x30)
  else if 'a' ≤ c ∧ c ≤ 'f' then some (c.toNat - 0x57)
  else if 'A' ≤ c ∧ c ≤ 'F' then some (c.toNat - 0x37)
  else none

/-- The token that a word or a number is. -/
def wordToken? (word : List Char) : Option Token :=
  if word = "true".toList then some .true
  else if word = "false".toList then some .false
  else if word = "null".toList then some .null
  else (Number.ofChars? word).map .number

/-- The token of a punctuation mark. -/
def punctuation? : Char → Option Token
  | '[' => some .openArray
  | ']' => some .closeArray
  | '\x7b' => some .openObject
  | '\x7d' => some .closeObject
  | ':' => some .colon
  | ',' => some .comma
  | _ => none

/-- Whether the character may stand between tokens. -/
def isBlank (c : Char) : Bool := c == ' ' || c == '\n' || c == '\r' || c == '\t'

/-- A character between two tokens. -/
def start (c : Char) : List Token × Lexing :=
  if isBlank c then ([], .between)
  else if c = '"' then ([], .inString [])
  else match punctuation? c with
    | some t => ([t], .between)
    | none => ([], .inWord [c])

/-- One character: the tokens that it completes, and how the machine goes on. -/
def step (state : Lexing) (c : Char) : Option (List Token × Lexing) :=
  match state with
  | .between => some (start c)
  | .inString read =>
    if c = '"' then some ([stringToken read.reverse], .between)
    else if c = '\\' then some ([], .escaped read)
    else if c.toNat < 0x20 then none
    else some ([], .inString (.char c :: read))
  | .escaped read =>
    if c = 'u' then some ([], .codeDigits read 0 0)
    else (unescape? c).map fun d => ([], .inString (.char d :: read))
  | .codeDigits read count value =>
    (codeDigit? c).map fun d =>
      if count < 3 then ([], .codeDigits read (count + 1) (16 * value + d))
      else ([], .inString (.code (16 * value + d) :: read))
  | .inWord read =>
    if isBlank c || c == '"' || (punctuation? c).isSome then
      (wordToken? read.reverse).map fun t => (t :: (start c).1, (start c).2)
    else some ([], .inWord (c :: read))

/-- The tokens that are left when the text ends. -/
def finish : Lexing → Option (List Token)
  | .between => some []
  | .inWord read => (wordToken? read.reverse).map ([·])
  | _ => none

/-- The tokens of the characters, in reverse order and behind the tokens `done`. -/
def tokensFrom? (state : Lexing) (done : List Token) : List Char → Option (List Token)
  | [] => (finish state).map fun ts => ts.reverse ++ done
  | c :: rest =>
    match step state c with
    | some (ts, next) => tokensFrom? next (ts.reverse ++ done) rest
    | none => none

/-- The tokens of a JSON text. -/
def tokens? (s : String) : Option (List Token) :=
  (tokensFrom? .between [] s.toList).map List.reverse

end ContractLens.Json
