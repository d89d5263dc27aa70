import ContractLens.Log

/-!
# Addresses in events

The addresses that the arguments of an event carry for its inputs of type `address` and `address[]`,
each once, in the order of the inputs. Inputs and arguments are paired by position. A list of
addresses may be an array of values or packed: forty hex digits for each address, as text or as
bytes.
-/

namespace ContractLens

namespace EventAddresses

/-- The address that a value is (`value_address`). -/
def ofValue? : Value → Option String
  | .address hex => some hex
  | .str s => if isHexAddress s then some s else none
  | .bytes raw => if raw.length = 20 then some (Hex.encodePrefixed raw) else none
  | _ => none

/-- The digits of packed addresses (`value_hex`). -/
def packedDigits? : Value → Option String
  | .bytes raw => some (Hex.encode raw)
  | .str s => some (Hex.stripMarker s)
  | _ => none

/-- The bytes in blocks of forty; a shorter rest is left out (in `split_packed`). -/
def blocks (bytes : List UInt8) : List (List UInt8) :=
  (List.range (bytes.length / 40)).map fun i => (bytes.drop (40 * i)).take 40

/-- Packed addresses one by one (`split_packed`). A block that cuts a character in two is left
    out. -/
def splitPacked (digits : String) : List String :=
  (blocks (utf8Bytes digits)).filterMap fun block =>
    (String.fromUTF8? (ByteArray.mk block.toArray)).map ("0x" ++ ·)

/-- The addresses that an argument carries for an input of this type (in `event_addresses`). -/
def ofArg (type : String) (arg : Value) : List String :=
  if type = "address" then (ofValue? arg).toList
  else if type = "address[]" then
    match arg with
    | .array items => items.filterMap ofValue?
    | arg => ((packedDigits? arg).map splitPacked).getD []
  else []

/-- Texts appended to `found`, apart from those that are there already (in `event_addresses`). -/
def addNew (found texts : List String) : List String :=
  texts.foldl (fun found s => if found.contains s then found else found ++ [s]) found

/-- The addresses in the arguments of a fragment's inputs (`event_addresses`). -/
def ofArgs (f : Abi.Fragment) (args : List Value) : List String :=
  (f.inputs.zip args).foldl (fun found (input, arg) => addNew found (ofArg input.type arg)) []

end EventAddresses

/-- The log with the addresses that its event carries (`add_event_addresses`). -/
def DecodedLog.withAddresses (d : DecodedLog) : DecodedLog :=
  match d.event with
  | some e => { d with addresses := some (EventAddresses.ofArgs e.fragment e.args) }
  | none => d

end ContractLens
