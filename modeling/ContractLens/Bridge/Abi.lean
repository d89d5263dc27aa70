import ContractLens.Abi.Fragment

/-!
# The bridge's interface in each release

The functions and events of the bridge. Each release keeps the interface of the one before and adds
to it, except that the destination of a requested release changes its type from bytes to text once.
-/

namespace ContractLens.Bridge

open Abi

/-! ## Fragments of the bridge -/

/-- A function of the bridge with inputs by name and type, and outputs by type. -/
def bridgeFunction (mutability : String) (constant payable : Bool) (name : String)
    (inputs : List (String × String)) (outputs : List String) : Fragment :=
  { kind := .function
    givenName := some name
    inputs := inputs.map fun (name, type) => .plain name type
    outputs := outputs.map (.plain "")
    anonymous := none
    stateMutability := some mutability
    constant := some constant
    payable := some payable }

/-- A function that reads the bridge's state. -/
def view : String → List (String × String) → List String → Fragment :=
  bridgeFunction "view" true false

/-- A function that changes the bridge's state and takes no coins. -/
def nonpayable : String → List (String × String) → List String → Fragment :=
  bridgeFunction "nonpayable" false false

/-- A function that takes coins. -/
def payable : String → List (String × String) → List String → Fragment :=
  bridgeFunction "payable" false true

/-- An indexed input of an event. -/
def indexed (name type : String) : Param := .ofEvent name type true

/-- An input of an event that is not indexed. -/
def plain (name type : String) : Param := .ofEvent name type false

/-- An event of the bridge. -/
def event (name : String) (inputs : List Param) : Fragment := .ofEvent name inputs

/-! ## Releases -/

/-- The interface of the first release (`ORCHID`). -/
def orchid : List Fragment := [
  nonpayable "updateCollections" [] [],
  nonpayable "receiveHeaders" [("blocks", "bytes[]")] [],
  nonpayable "registerBtcTransaction" [("tx", "bytes"), ("height", "int256"), ("pmt", "bytes")] [],
  payable "releaseBtc" [] [],
  nonpayable "addSignature"
    [("pubkey", "bytes"), ("signatures", "bytes[]"), ("txhash", "bytes")] [],
  view "getStateForBtcReleaseClient" [] ["bytes"],
  view "getStateForDebugging" [] ["bytes"],
  view "getBtcBlockchainBestChainHeight" [] ["int256"],
  view "getBtcBlockchainBlockLocator" [] ["string[]"],
  view "isBtcTxHashAlreadyProcessed" [("hash", "string")] ["bool"],
  view "getBtcTxHashProcessedHeight" [("hash", "string")] ["int64"],
  view "getFederationAddress" [] ["string"],
  view "getFederationSize" [] ["int256"],
  view "getFederationThreshold" [] ["int256"],
  view "getFederatorPublicKey" [("index", "int256")] ["bytes"],
  view "getFederationCreationTime" [] ["int256"],
  view "getFederationCreationBlockNumber" [] ["int256"],
  view "getRetiringFederationAddress" [] ["string"],
  view "getRetiringFederationSize" [] ["int256"],
  view "getRetiringFederationThreshold" [] ["int256"],
  view "getRetiringFederatorPublicKey" [("index", "int256")] ["bytes"],
  view "getRetiringFederationCreationTime" [] ["int256"],
  view "getRetiringFederationCreationBlockNumber" [] ["int256"],
  nonpayable "createFederation" [] ["int256"],
  nonpayable "addFederatorPublicKey" [("key", "bytes")] ["int256"],
  nonpayable "commitFederation" [("hash", "bytes")] ["int256"],
  nonpayable "rollbackFederation" [] ["int256"],
  view "getPendingFederationHash" [] ["bytes"],
  view "getPendingFederationSize" [] ["int256"],
  view "getPendingFederatorPublicKey" [("index", "int256")] ["bytes"],
  view "getLockWhitelistSize" [] ["int256"],
  view "getLockWhitelistAddress" [("index", "int256")] ["string"],
  nonpayable "addLockWhitelistAddress" [("address", "string"),
    ("maxTransferValue", "int256")] ["int256"],
  nonpayable "removeLockWhitelistAddress" [("address", "string")] ["int256"],
  nonpayable "setLockWhitelistDisableBlockDelay" [("disableDelay", "int256")] ["int256"],
  view "getFeePerKb" [] ["int256"],
  nonpayable "voteFeePerKbChange" [("feePerKb", "int256")] ["int256"],
  view "getMinimumLockTxValue" [] ["int256"]]

/-- The interface since `wasabi` (`WASABI`). -/
def wasabi : List Fragment := orchid ++ [
  nonpayable "addOneOffLockWhitelistAddress" [("address", "string"),
    ("maxTransferValue", "int256")] ["int256"],
  nonpayable "addUnlimitedLockWhitelistAddress" [("address", "string")] ["int256"],
  view "getLockWhitelistEntryByAddress" [("address", "string")] ["int256"],
  view "getBtcTransactionConfirmations" [("txHash", "bytes32"), ("blockHash", "bytes32"),
    ("merkleBranchPath", "uint256"), ("merkleBranchHashes", "bytes32[]")] ["int256"],
  view "getBtcBlockchainInitialBlockHeight" [] ["int256"],
  view "getBtcBlockchainBlockHashAtDepth" [("depth", "int256")] ["bytes"],
  view "getLockingCap" [] ["int256"],
  nonpayable "increaseLockingCap" [("newLockingCap", "int256")] ["bool"]]

/-- The interface since `papyrus` (`PAPYRUS`). -/
def papyrus : List Fragment := wasabi ++ [
  nonpayable "registerBtcCoinbaseTransaction" [("btcTxSerialized", "bytes"),
    ("blockHash", "bytes32"), ("pmtSerialized", "bytes"), ("witnessMerkleRoot", "bytes32"),
    ("witnessReservedValue", "bytes32")] [],
  view "hasBtcBlockCoinbaseTransactionInformation" [("blockHash", "bytes32")] ["bool"],
  view "getActiveFederationCreationBlockHeight" [] ["uint256"],
  view "getFederatorPublicKeyOfType" [("index", "int256"), ("atype", "string")] ["bytes"],
  view "getRetiringFederatorPublicKeyOfType" [("index", "int256"), ("atype", "string")] ["bytes"],
  view "getPendingFederatorPublicKeyOfType" [("index", "int256"), ("atype", "string")] ["bytes"],
  nonpayable "addFederatorPublicKeyMultikey" [("btcKey", "bytes"), ("rskKey", "bytes"),
    ("mstKey", "bytes")] ["int256"],
  view "getBtcBlockchainBestBlockHeader" [] ["bytes"],
  view "getBtcBlockchainBlockHeaderByHash" [("btcBlockHash", "bytes32")] ["bytes"],
  view "getBtcBlockchainBlockHeaderByHeight" [("btcBlockHeight", "uint256")] ["bytes"],
  view "getBtcBlockchainParentBlockHeaderByHash" [("btcBlockHash", "bytes32")] ["bytes"]]

/-- The interface since `iris`, the first with events (`IRIS`). -/
def iris : List Fragment := papyrus ++ [
  nonpayable "registerFastBridgeBtcTransaction" [("btcTxSerialized", "bytes"),
    ("height", "uint256"), ("pmtSerialized", "bytes"), ("derivationArgumentsHash", "bytes32"),
    ("userRefundBtcAddress", "bytes"), ("liquidityBridgeContractAddress", "address"),
    ("liquidityProviderBtcAddress", "bytes"), ("shouldTransferToContract", "bool")] ["int256"],
  event "lock_btc" [indexed "receiver" "address", indexed "btcTxHash" "bytes32",
    plain "senderBtcAddress" "string", plain "amount" "int256"],
  event "update_collections" [plain "sender" "address"],
  event "release_requested" [indexed "rskTxHash" "bytes32", indexed "btcTxHash" "bytes32",
    plain "amount" "uint256"],
  event "add_signature" [indexed "releaseRskTxHash" "bytes32",
    indexed "federatorRskAddress" "address", plain "federatorBtcPublicKey" "bytes"],
  event "release_btc" [indexed "releaseRskTxHash" "bytes32", plain "btcRawTransaction" "bytes"],
  event "commit_federation" [plain "oldFederationBtcPublicKeys" "bytes",
    plain "oldFederationBtcAddress" "string", plain "newFederationBtcPublicKeys" "bytes",
    plain "newFederationBtcAddress" "string", plain "activationHeight" "uint256"],
  event "pegin_btc" [indexed "receiver" "address", indexed "btcTxHash" "bytes32",
    plain "amount" "int256", plain "protocolVersion" "int256"],
  event "rejected_pegin" [indexed "btcTxHash" "bytes32", plain "reason" "int256"],
  event "unrefundable_pegin" [indexed "btcTxHash" "bytes32", plain "reason" "int256"]]

/-- The interface since `hop` for a type of the destination of a requested release (in `HOP` and
    `FINGERROOT`). -/
def hopWith (destination : String) : List Fragment := iris ++ [
  view "getActivePowpegRedeemScript" [] ["bytes"],
  view "getQueuedPegoutsCount" [] ["uint256"],
  view "getEstimatedFeesForNextPegOutEvent" [] ["uint256"],
  view "getNextPegoutCreationBlockNumber" [] ["uint256"],
  event "release_request_received" [indexed "sender" "address",
    plain "btcDestinationAddress" destination, plain "amount" "uint256"],
  event "release_request_rejected" [indexed "sender" "address", plain "amount" "uint256",
    plain "reason" "int256"],
  event "batch_pegout_created" [indexed "btcTxHash" "bytes32", plain "releaseRskTxHashes" "bytes"],
  event "pegout_confirmed" [indexed "btcTxHash" "bytes32",
    plain "pegoutCreationRskBlockNumber" "uint256"]]

/-- The interface since `hop` (`HOP`). -/
def hop : List Fragment := hopWith "bytes"

/-- The interface since `fingerroot` (`FINGERROOT`). -/
def fingerroot : List Fragment := hopWith "string"

/-- The interface since `lovell` (`LOVELL`). -/
def lovell : List Fragment := fingerroot ++ [
  event "pegout_transaction_created" [indexed "btcTxHash" "bytes32",
    plain "utxoOutpointValues" "bytes"]]

/-- The interface since `reed` (`REED`). -/
def reed : List Fragment := lovell ++ [
  view "getProposedFederationAddress" [] ["string"],
  view "getProposedFederationSize" [] ["int256"],
  view "getProposedFederationCreationTime" [] ["int256"],
  view "getProposedFederationCreationBlockNumber" [] ["int256"],
  view "getProposedFederatorPublicKeyOfType" [("index", "int256"), ("atype", "string")] ["bytes"],
  event "commit_federation_failed" [plain "proposedFederationRedeemScript" "bytes",
    plain "blockNumber" "uint256"]]

end ContractLens.Bridge
