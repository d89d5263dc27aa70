import ContractLens.Text.LetterCase
import ContractLens.Text.Natural

/-!
# Networks

The three networks of the chain, each with its number, its name and the version byte of the
pay-to-script-hash addresses on the Bitcoin network that it is merge-mined with.
-/

namespace ContractLens

/-- A network, named after the Bitcoin network that it is merge-mined with. -/
inductive Network where
  | mainnet
  | testnet
  | regtest
deriving DecidableEq, Repr

namespace Network

/-- The number of a network (`Network.net_id`). -/
def id : Network → UInt64
  | mainnet => 30
  | testnet => 31
  | regtest => 33

/-- The network with this number (`Network.from_net_id`). -/
def ofId? (n : UInt64) : Option Network :=
  if n = 30 then some mainnet
  else if n = 31 then some testnet
  else if n = 33 then some regtest
  else none

/-- The name of a network (`Network.as_str`). -/
def name : Network → String
  | mainnet => "mainnet"
  | testnet => "testnet"
  | regtest => "regtest"

/-- The network that a name in any letter case, or a number, stands for (`Network.from_str`). -/
def ofText? (s : String) : Option Network :=
  let t := LetterCase.lower s
  if t = "mainnet" ∨ t = "30" then some mainnet
  else if t = "testnet" ∨ t = "31" then some testnet
  else if t = "regtest" ∨ t = "33" then some regtest
  else none

/-- The version byte of pay-to-script-hash addresses on the paired Bitcoin network
    (`Network.btc_p2sh_version`). -/
def scriptHashVersion : Network → UInt8
  | mainnet => 0x05
  | testnet | regtest => 0xc4

end Network

end ContractLens
