import ContractLens.Contract

/-!
# Proxies

A proxy keeps the address of its implementation, or of a beacon that knows it, in one of four
storage slots. The slots are looked at in a fixed order and the first word that is not zero decides.
An implementation that is itself a proxy is not followed.

* `isNonzeroWord` and `slotAddress?` read a storage word.
* `ProxyResolution.resolve` looks at all slots of an address.
-/

namespace ContractLens

/-! ## Patterns -/

/-- How a proxy names its implementation. -/
inductive ProxyType where
  | uups
  | erc1967
  | erc1967Beacon
  | unstructuredStorage
deriving DecidableEq, Repr

namespace ProxyType

/-- The words for a pattern (`ProxyType.description`). -/
def description : ProxyType → String
  | uups => "ERC1822 Universal Upgradeable Proxy Standard (UUPS)"
  | erc1967 => "ERC1967 Proxy Storage Slots - Normal"
  | erc1967Beacon => "ERC1967 Proxy Storage Slots - Beacon"
  | unstructuredStorage => "Open Zeppelin's Unstructured Storage Proxy Pattern (pre ERC1967)"

/-- The short name of a pattern in notices. -/
def label : ProxyType → String
  | uups => "Erc1822Uups"
  | erc1967 => "Erc1967Normal"
  | erc1967Beacon => "Erc1967Beacon"
  | unstructuredStorage => "OzUnstructuredStorage"

/-- The storage slot of a pattern (`ProxyType.slot`). -/
def slot : ProxyType → String
  | uups => "0xc5f16f0fcc639fa48a6947836d9850f504798523bf8c9a3a87d5876cf622bcf7"
  | erc1967 => "0x360894a13ba1a3210667c828492db98dca3e2076cc3735a920a3ca505d382bbc"
  | erc1967Beacon => "0xa3f0ad74e5423aebfd80d3ef4346578335a9a72aeaee59ff6cb3582b35133d50"
  | unstructuredStorage => "0x7050c9e0f4ca769c69bd3a8ef740bc37934f8e2c036e5a723fd8ee048ed3f8c3"

/-- The interface that a proxy of this pattern has by being one (`ProxyType.interface_marker`). -/
def marker? : ProxyType → Option String
  | uups => some "ERC1822"
  | erc1967 | erc1967Beacon => some "ERC1967"
  | unstructuredStorage => none

end ProxyType

/-! ## Storage words -/

/-- Whether a word is `0x` or `0X` and hex digits, not all of them zero (`not_zero`). -/
def isNonzeroWord (word : String) : Bool :=
  match word.toList with
  | '0' :: 'x' :: digits | '0' :: 'X' :: digits => digits.all Hex.isDigit && digits.any (· != '0')
  | _ => false

/-- How many bytes characters take in UTF-8 (in `address_from_slot`). -/
def utf8Length (cs : List Char) : Nat := cs.foldr (fun c n => c.utf8Size + n) 0

/-- The characters behind the first `excess` bytes; none if a character is cut in two (in
    `address_from_slot`). -/
def dropBytes? : Nat → List Char → Option (List Char)
  | 0, cs => some cs
  | _ + 1, [] => some []
  | excess + 1, c :: cs =>
    if c.utf8Size ≤ excess + 1 then dropBytes? (excess + 1 - c.utf8Size) cs else none

/-- The address in the last twenty bytes of a word: the last forty digits in lower case, with zeros
    in front of fewer ones (`address_from_slot`). None if the cut goes through a character, which
    never happens to a word of ASCII characters. -/
def slotAddress? (word : String) : Option String :=
  let digits := (Hex.stripMarker word).toList
  (dropBytes? (utf8Length digits - 40) digits).map fun tail =>
    let digits := (LetterCase.lower (String.ofList tail)).toList
    "0x" ++ String.ofList (List.replicate (40 - digits.length) '0' ++ digits)

/-! ## Resolution -/

/-- What is known of an address as a proxy. -/
structure ProxyResolution where
  address : String
  isProxy : Bool
  proxyType : Option ProxyType
  implementation : Option String
  beacon : Option String
deriving DecidableEq, Repr

namespace ProxyResolution

/-- An address that is no proxy (`ProxyResolution.not_a_proxy`). -/
def notProxy (address : String) : ProxyResolution := ⟨address, false, none, none, none⟩

/-- A proxy with its implementation (`ProxyResolution.found`). -/
def found (address : String) (type : ProxyType) (implementation : String) (beacon : Option String) :
    ProxyResolution :=
  ⟨address, true, some type, some implementation, beacon⟩

/-- The resolution as JSON (`ProxyResolution.serialize`). -/
def toJson (r : ProxyResolution) : Json :=
  .obj [("address", .str r.address), ("isProxy", .bool r.isProxy),
    ("proxyType", Json.ofOption (fun t => .str t.description) r.proxyType),
    ("implementationAddress", Json.ofOption .str r.implementation),
    ("beaconAddress", Json.ofOption .str r.beacon)]

/-- The word in the slot of a pattern (`ProxyResolver.read_slot`). -/
def readSlot (address : String) (type : ProxyType) (block : BlockTag) :
    Query InspectError String := do
  Query.note ⟨.trace, "reading proxy slot",
    [("address", address), ("slot", type.slot), ("block", block.text)]⟩
  match ← Query.attempt (Query.getStorage address type.slot block) with
  | .ok word => return word
  | .error e =>
    Query.note ⟨.warn, "error checking implementation slot",
      [("address", address), ("proxy_type", type.description)]⟩
    Query.fail (.node e)

/-- The address in a word (`address_from_slot`). -/
def wordAddress (word : String) : Query InspectError String :=
  match slotAddress? word with
  | some address => .answer address
  | none => .fail (.brokenWord word)

/-- The resolution by the one slot of a pattern (`ProxyResolver.check_slot`). -/
def bySlot (address : String) (type : ProxyType) (block : BlockTag) :
    Query InspectError ProxyResolution := do
  let word ← readSlot address type block
  if isNonzeroWord word then
    let implementation ← wordAddress word
    return found address type implementation none
  else return notProxy address

/-- The interface of a beacon (`beacon_abi`). -/
def beaconAbi : List Abi.Fragment :=
  [.ofFunction "implementation" [] [.plain "" "address"]]

/-- The implementation that a beacon names for a proxy (`ProxyResolver.beacon_implementation`). -/
def beaconImplementation (address beacon : String) (block : BlockTag) :
    Query InspectError String := do
  let reply ← Query.attempt (Contract.call ⟨beaconAbi, beacon⟩ "implementation" [] block)
  match reply with
  | .ok (.address implementation) => return implementation
  | reply =>
    let reason := match reply with
      | .ok value => "beacon returned a non-address value: " ++ value.text
      | .error e => e.message
    Query.note ⟨.warn, "error fetching implementation from beacon proxy",
      [("address", address), ("beacon", beacon)]⟩
    Query.fail (.beacon beacon reason)

/-- The resolution by the slot of a beacon (in `ProxyResolver.is_erc1967_proxy`). -/
def byBeacon (address : String) (block : BlockTag) : Query InspectError ProxyResolution := do
  let word ← readSlot address .erc1967Beacon block
  if isNonzeroWord word then
    let beacon ← wordAddress word
    let implementation ← beaconImplementation address beacon block
    return found address .erc1967Beacon implementation (some beacon)
  else return notProxy address

/-- The resolution by the slot for an implementation, then by the slot for a beacon
    (`ProxyResolver.is_erc1967_proxy`). -/
def byErc1967 (address : String) (block : BlockTag) : Query InspectError ProxyResolution := do
  let direct ← bySlot address .erc1967 block
  if direct.isProxy then return direct
  byBeacon address block

/-- The resolution by all slots in order (`ProxyResolver.resolve`). -/
def resolve (address : String) (block : BlockTag) : Query InspectError ProxyResolution := do
  let uups ← bySlot address .uups block
  if uups.isProxy then return uups
  let erc1967 ← byErc1967 address block
  if erc1967.isProxy then return erc1967
  bySlot address .unstructuredStorage block

end ProxyResolution

end ContractLens
