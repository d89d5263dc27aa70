import ContractLens.Abi.Fragment

/-!
# The bundled interface

The fragments that are used where no interface description is given: the token standards, interface
detection, and the usual functions and events of proxies and owned contracts.
-/

namespace ContractLens.Abi.Bundled

/-- A function of the bundled interface with inputs and outputs by name and type. -/
def function (mutability name : String) (inputs outputs : List (String × String)) : Fragment :=
  { kind := .function
    givenName := some name
    inputs := inputs.map fun (name, type) => .plain name type
    outputs := outputs.map fun (name, type) => .plain name type
    anonymous := none
    stateMutability := some mutability
    constant := none
    payable := none }

/-- An event of the bundled interface with inputs by name, type and whether they are indexed. -/
def event (name : String) (inputs : List (String × String × Bool)) : Fragment :=
  .ofEvent name (inputs.map fun (name, type, indexed) => .ofEvent name type indexed)

/-- The bundled interface in order (`default_abi`). -/
def fragments : List Fragment := [
  function "view" "name" [] [("", "string")],
  function "view" "symbol" [] [("", "string")],
  function "view" "decimals" [] [("", "uint8")],
  function "view" "totalSupply" [] [("", "uint256")],
  function "view" "balanceOf" [("owner", "address")] [("", "uint256")],
  function "view" "allowance" [("owner", "address"), ("spender", "address")] [("", "uint256")],
  function "nonpayable" "transfer" [("to", "address"), ("value", "uint256")] [("", "bool")],
  function "nonpayable" "approve" [("spender", "address"), ("value", "uint256")] [("", "bool")],
  function "nonpayable" "transferFrom" [("from", "address"), ("to", "address"),
    ("value", "uint256")] [("", "bool")],
  event "Transfer" [("from", "address", true), ("to", "address", true),
    ("value", "uint256", false)],
  event "Approval" [("owner", "address", true), ("spender", "address", true),
    ("value", "uint256", false)],
  function "nonpayable" "transferAndCall" [("to", "address"), ("value", "uint256"),
    ("data", "bytes")] [("", "bool")],
  event "Transfer" [("from", "address", true), ("to", "address", true),
    ("value", "uint256", false), ("data", "bytes", false)],
  function "view" "supportsInterface" [("interfaceId", "bytes4")] [("", "bool")],
  function "view" "ownerOf" [("tokenId", "uint256")] [("", "address")],
  function "view" "getApproved" [("tokenId", "uint256")] [("", "address")],
  function "nonpayable" "setApprovalForAll" [("operator", "address"), ("approved", "bool")] [],
  function "view" "isApprovedForAll" [("owner", "address"), ("operator", "address")] [("", "bool")],
  function "nonpayable" "safeTransferFrom" [("from", "address"), ("to", "address"),
    ("tokenId", "uint256")] [],
  function "nonpayable" "safeTransferFrom" [("from", "address"), ("to", "address"),
    ("tokenId", "uint256"), ("data", "bytes")] [],
  function "view" "tokenURI" [("tokenId", "uint256")] [("", "string")],
  function "view" "tokenOfOwnerByIndex" [("owner", "address"),
    ("index", "uint256")] [("", "uint256")],
  function "view" "tokenByIndex" [("index", "uint256")] [("", "uint256")],
  function "view" "exists" [("tokenId", "uint256")] [("", "bool")],
  event "Transfer" [("from", "address", true), ("to", "address", true),
    ("tokenId", "uint256", true)],
  event "Approval" [("owner", "address", true), ("approved", "address", true),
    ("tokenId", "uint256", true)],
  event "ApprovalForAll" [("owner", "address", true), ("operator", "address", true),
    ("approved", "bool", false)],
  function "view" "proxiableUUID" [] [("", "bytes32")],
  function "view" "implementation" [] [("", "address")],
  function "view" "admin" [] [("", "address")],
  function "nonpayable" "upgradeTo" [("newImplementation", "address")] [],
  function "payable" "upgradeToAndCall" [("newImplementation", "address"), ("data", "bytes")] [],
  function "nonpayable" "changeAdmin" [("newAdmin", "address")] [],
  event "Upgraded" [("implementation", "address", true)],
  event "BeaconUpgraded" [("beacon", "address", true)],
  event "AdminChanged" [("previousAdmin", "address", false),
    ("newAdmin", "address", false)],
  function "view" "owner" [] [("", "address")],
  function "nonpayable" "transferOwnership" [("newOwner", "address")] [],
  event "OwnershipTransferred" [("previousOwner", "address", true),
    ("newOwner", "address", true)]]

end ContractLens.Abi.Bundled
