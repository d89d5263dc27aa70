import ContractLens.Abi.Signature

/-!
# Known interfaces

The standard interfaces that are recognised by their functions. An interface is implemented when
each of its canonical signatures is among the observed ones. `registry` is ordered, and every answer
keeps its order.
-/

namespace ContractLens.Abi

/-- An interface: its name and the canonical signatures of its functions (`InterfaceDefinition`). -/
structure Interface where
  name : String
  methods : List String
deriving DecidableEq, Repr

namespace Interface

/-- The number of the interface, the sum of its selectors (in `InterfaceDefinition.new`). -/
def id (i : Interface) : String := interfaceIdOfMethods i.methods

/-- Whether each function of the interface is among the observed ones
    (`InterfaceDefinition.is_implemented_by`). -/
def isImplementedBy (i : Interface) (observed : List String) : Bool :=
  i.methods.all observed.contains

/-- The interface as JSON (`InterfaceDefinition.serialize`). -/
def toJson (i : Interface) : Json :=
  .obj [("name", .str i.name), ("methods", .ofTexts i.methods), ("erc165_id", .str i.id)]

/-- The known interfaces in order (`registry`). -/
def registry : List Interface := [
  ⟨"ERC20", ["totalSupply()", "balanceOf(address)", "allowance(address,address)",
    "transfer(address,uint256)", "approve(address,uint256)",
    "transferFrom(address,address,uint256)"]⟩,
  ⟨"ERC677", ["transferAndCall(address,uint256,bytes)"]⟩,
  ⟨"ERC165", ["supportsInterface(bytes4)"]⟩,
  ⟨"ERC721", ["balanceOf(address)", "ownerOf(uint256)", "approve(address,uint256)",
    "getApproved(uint256)", "setApprovalForAll(address,bool)", "isApprovedForAll(address,address)",
    "transferFrom(address,address,uint256)", "safeTransferFrom(address,address,uint256)",
    "safeTransferFrom(address,address,uint256,bytes)"]⟩,
  ⟨"ERC721Enumerable", ["totalSupply()", "tokenOfOwnerByIndex(address,uint256)",
    "tokenByIndex(uint256)"]⟩,
  ⟨"ERC721Metadata", ["name()", "symbol()", "tokenURI(uint256)"]⟩,
  ⟨"ERC721Exists", ["exists(uint256)"]⟩,
  ⟨"ERC1822", ["proxiableUUID()"]⟩]

/-- The known interface of this name (`interface`). -/
def find? (name : String) : Option Interface := registry.find? (·.name == name)

/-- For each known interface whether the observed functions implement it
    (`interfaces_implemented_by`). -/
def implementedBy (observed : List String) : List (String × Bool) :=
  registry.map fun i => (i.name, i.isImplementedBy observed)

/-- The public names of interfaces (`ERC_NAMES`). -/
def publicNames : List (String × String) := [
  ("ERC20", "ERC20"), ("ERC677", "ERC677"), ("ERC165", "ERC165"), ("ERC721", "ERC721"),
  ("ERC1822", "ERC1822"), ("ERC1967", "ERC1967")]

/-- The public name of an interface (`erc_name`). Interfaces without one go by their own names. -/
def publicName (name : String) : String := (publicNames.lookup name).getD name

/-- The public names of the interfaces that are flagged (`map_interfaces_to_ercs`). -/
def flaggedNames (flags : List (String × Bool)) : List String :=
  (flags.filter (·.2)).map fun (name, _) => publicName name

/-- The public names of the interfaces that the functions implement (`interfaces_by_methods`). -/
def namesOfMethods (methods : List String) : List String := flaggedNames (implementedBy methods)

end Interface

end ContractLens.Abi
