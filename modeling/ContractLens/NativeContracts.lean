import ContractLens.Bridge.Release
import ContractLens.Config

/-!
# Built-in contracts

The contracts that are part of the network itself, known by their addresses: the bridge and the
reward contract. Addresses are compared without regard to the case of ASCII letters.
-/

namespace ContractLens

/-- A built-in contract. -/
inductive NativeContract where
  | bridge
  | remasc
deriving DecidableEq, Repr

/-- The name of a built-in contract (`BRIDGE` and `REMASC`). -/
def NativeContract.name : NativeContract → String
  | bridge => "bridge"
  | remasc => "remasc"

/-- The addresses of the built-in contracts in lower case. -/
structure NativeContracts where
  bridge : String
  remasc : String
deriving DecidableEq, Repr

namespace NativeContracts

/-- The addresses in a configuration (`NativeContracts.from_config`). -/
def ofConfig (c : NativeConfig) : NativeContracts :=
  ⟨LetterCase.lower c.bridge, LetterCase.lower c.remasc⟩

/-- All addresses in order (`NativeContracts.addresses`). -/
def addresses (n : NativeContracts) : List String := [n.bridge, n.remasc]

/-- The first address that is not `0x` and forty hex digits is an error
    (`NativeContracts.validate`). -/
def validate (n : NativeContracts) : Except ConfigError Unit :=
  match n.addresses.find? fun a => !isHexAddress a with
  | some a => .error (.invalidAddress a)
  | none => .ok ()

/-- The address of the contract with this name (`NativeContracts.address_of`). -/
def addressOf? (n : NativeContracts) (name : String) : Option String :=
  if name = NativeContract.bridge.name then some n.bridge
  else if name = NativeContract.remasc.name then some n.remasc
  else none

/-- The contract at an address (`NativeContracts.name_of`). -/
def at? (n : NativeContracts) (address : String) : Option NativeContract :=
  if LetterCase.equalIgnoringAsciiCase n.bridge address then some .bridge
  else if LetterCase.equalIgnoringAsciiCase n.remasc address then some .remasc
  else none

/-- Whether a built-in contract is at an address (`NativeContracts.is_native`). -/
def isNative (n : NativeContracts) (address : String) : Bool := (n.at? address).isSome

/-- The functions of the contract at an address: those of the newest release for the bridge, none
    for any other (`NativeContracts.methods`). -/
def methods (n : NativeContracts) (address : String) (network : Network) :
    Except ConfigError (List String) :=
  match n.at? address with
  | some .bridge => Bridge.Release.latestMethods network
  | _ => .ok []

/-- The addresses as they are shown in diagnostics (`NativeContracts.fmt`). -/
def debugText (n : NativeContracts) : String :=
  "NativeContracts \x7b by_name: \x7b\"bridge\": " ++ Quoted.text n.bridge ++ ", \"remasc\": " ++
    Quoted.text n.remasc ++ "\x7d \x7d"

end NativeContracts

end ContractLens
