/-!
# UTF-8

Bytes read as text. Bytes that are no UTF-8 become replacement characters, one for each longest
beginning of a character that is not completed (`decode`), so every byte string has a text.
-/

namespace ContractLens.Utf8

/-- The character that stands for bytes that are no text. -/
def replacement : Char := '\ufffd'

/-- Whether a byte continues a character. -/
def continues (b : UInt8) : Bool := 0x80 ≤ b && b ≤ 0xbf

/-- Whether `second` may follow `first` in a character of three bytes. Characters have their
    shortest form and are no surrogates. -/
def secondOfThree (first second : UInt8) : Bool :=
  if first = 0xe0 then 0xa0 ≤ second && second ≤ 0xbf
  else if first = 0xed then 0x80 ≤ second && second ≤ 0x9f
  else continues second

/-- Whether `second` may follow `first` in a character of four bytes. Characters have their shortest
    form and lie below `0x110000`. -/
def secondOfFour (first second : UInt8) : Bool :=
  if first = 0xf0 then 0x90 ≤ second && second ≤ 0xbf
  else if first = 0xf4 then 0x80 ≤ second && second ≤ 0x8f
  else continues second

/-- The character of two bytes. -/
def charOfTwo (b0 b1 : UInt8) : Char :=
  Char.ofNat ((b0.toNat - 0xc0) * 0x40 + (b1.toNat - 0x80))

/-- The character of three bytes. -/
def charOfThree (b0 b1 b2 : UInt8) : Char :=
  Char.ofNat ((b0.toNat - 0xe0) * 0x1000 + (b1.toNat - 0x80) * 0x40 + (b2.toNat - 0x80))

/-- The character of four bytes. -/
def charOfFour (b0 b1 b2 b3 : UInt8) : Char :=
  Char.ofNat ((b0.toNat - 0xf0) * 0x40000 + (b1.toNat - 0x80) * 0x1000 + (b2.toNat - 0x80) * 0x40 +
    (b3.toNat - 0x80))

/-- The characters of the bytes. -/
def decodeChars : List UInt8 → List Char
  | [] => []
  | b0 :: rest =>
    if b0 < 0x80 then Char.ofNat b0.toNat :: decodeChars rest
    else if 0xc2 ≤ b0 && b0 ≤ 0xdf then
      match rest with
      | [] => [replacement]
      | b1 :: rest1 =>
        if continues b1 then charOfTwo b0 b1 :: decodeChars rest1
        else replacement :: decodeChars (b1 :: rest1)
    else if 0xe0 ≤ b0 && b0 ≤ 0xef then
      match rest with
      | [] => [replacement]
      | b1 :: rest1 =>
        if secondOfThree b0 b1 then
          match rest1 with
          | [] => [replacement]
          | b2 :: rest2 =>
            if continues b2 then charOfThree b0 b1 b2 :: decodeChars rest2
            else replacement :: decodeChars (b2 :: rest2)
        else replacement :: decodeChars (b1 :: rest1)
    else if 0xf0 ≤ b0 && b0 ≤ 0xf4 then
      match rest with
      | [] => [replacement]
      | b1 :: rest1 =>
        if secondOfFour b0 b1 then
          match rest1 with
          | [] => [replacement]
          | b2 :: rest2 =>
            if continues b2 then
              match rest2 with
              | [] => [replacement]
              | b3 :: rest3 =>
                if continues b3 then charOfFour b0 b1 b2 b3 :: decodeChars rest3
                else replacement :: decodeChars (b3 :: rest3)
            else replacement :: decodeChars (b2 :: rest2)
        else replacement :: decodeChars (b1 :: rest1)
    else replacement :: decodeChars rest
termination_by bytes => bytes.length

/-- The text of the bytes. -/
def decode (bytes : List UInt8) : String := String.ofList (decodeChars bytes)

end ContractLens.Utf8
