import ContractLens.Text.CharClass

/-!
# Quoted text

Texts and characters as they are shown in diagnostics: between quotes, with backslash escapes for
the quote itself, the backslash, NUL, tab and line ends, and the code in hex for every other
character that is invisible or would join the one in front of it.
-/

namespace ContractLens.Quoted

/-- A character escaped for text between `quote` marks. -/
def escapeChar (quote c : Char) : List Char :=
  if c = '\x00' then ['\\', '0']
  else if c = '\t' then ['\\', 't']
  else if c = '\r' then ['\\', 'r']
  else if c = '\n' then ['\\', 'n']
  else if c = '\\' ∨ c = quote then ['\\', c]
  else if CharClass.isExtending c || CharClass.isUnprintable c then
    "\\u\x7b".toList ++ Nat.toDigits 16 c.toNat ++ ['\x7d']
  else [c]

/-- A text between double quotes. -/
def text (s : String) : String :=
  String.ofList ('"' :: s.toList.flatMap (escapeChar '"') ++ ['"'])

/-- A character between single quotes. -/
def char (c : Char) : String :=
  String.ofList ('\'' :: escapeChar '\'' c ++ ['\''])

/-- An optional text, `None` or the text in quotes inside `Some(…)`. -/
def optionalText : Option String → String
  | some s => "Some(" ++ text s ++ ")"
  | none => "None"

/-- An optional number, `None` or the decimal digits inside `Some(…)`. -/
def optionalWord : Option UInt64 → String
  | some n => "Some(" ++ toString n.toNat ++ ")"
  | none => "None"

end ContractLens.Quoted
