import ContractLens.Proxy

/-!
# Searching the chain

* `findChange` looks for a height at which an observation differs from the one before, by halving
  the range. Both ends are observed, the lower one first; of two halves the upper one is searched
  first, and its answer counts before that of the lower one. An observation may fail, which ends the
  search. `findChangeChecked` is the same search, where no sum or difference may leave the words of
  64 bits.
* `deploymentBlock` finds where the code at an address begins.
* `deploymentOf` finds the transaction that created the contract there.
-/

namespace ContractLens

/-! ## Halving -/

/-- The middle of a range lies inside it, so both halves are shorter. -/
theorem mid_bounds {low high : UInt64} (h : low < high) (h1 : ¬high = low + 1) :
    (high - (low + (high - low) / 2)).toNat < (high - low).toNat ∧
      (low + (high - low) / 2 - low).toNat < (high - low).toNat := by
  have hlt : low.toNat < high.toNat := UInt64.lt_iff_toNat_lt.mp h
  have hh := high.toNat_lt
  have hsub : (high - low).toNat = high.toNat - low.toNat :=
    UInt64.toNat_sub_of_le _ _ (UInt64.le_iff_toNat_le.mpr (by omega))
  have hhalf : ((high - low) / 2).toNat = (high.toNat - low.toNat) / 2 := by
    rw [UInt64.toNat_div, hsub]; rfl
  have hne : high.toNat ≠ low.toNat + 1 := fun e => h1 (UInt64.toNat.inj (by
    rw [e, UInt64.toNat_add]; simp; omega))
  have hmid : (low + (high - low) / 2).toNat = low.toNat + (high.toNat - low.toNat) / 2 := by
    rw [UInt64.toNat_add, hhalf]; omega
  have hup : (high - (low + (high - low) / 2)).toNat =
      high.toNat - (low.toNat + (high.toNat - low.toNat) / 2) := by
    rw [UInt64.toNat_sub_of_le _ _ (UInt64.le_iff_toNat_le.mpr (by rw [hmid]; omega)), hmid]
  have hdown : (low + (high - low) / 2 - low).toNat = (high.toNat - low.toNat) / 2 := by
    rw [UInt64.toNat_sub_of_le _ _ (UInt64.le_iff_toNat_le.mpr (by rw [hmid]; omega)), hmid]; omega
  omega

/-- A height above `low` and up to `high` at which the observation differs from the one before; none
    when the observations at both ends agree or the range is empty (`binary_search_number`). -/
def findChange {m : Type → Type} [Monad m] {β : Type} [BEq β] (observe : UInt64 → m β)
    (high low : UInt64) : m (Option UInt64) := do
  let atLow ← observe low
  let atHigh ← observe high
  if h : low < high then
    if atLow == atHigh then return none
    else if h1 : high = low + 1 then return some high
    else
      let mid := low + (high - low) / 2
      let upper ← findChange observe high mid
      let lower ← findChange observe mid low
      return upper.or lower
  else return none
termination_by (high - low).toNat
decreasing_by
  · exact (mid_bounds h h1).1
  · exact (mid_bounds h h1).2

/-! The same search with every sum and difference checked. -/

/-- A sum that has to be a word (in `binary_search_number`). -/
def addWithin (a b : UInt64) : Option UInt64 :=
  if a.toNat + b.toNat < Nat.pow 2 64 then some (a + b) else none

/-- A difference that has to be a word (in `binary_search_number`). -/
def subWithin (a b : UInt64) : Option UInt64 :=
  if b.toNat ≤ a.toNat then some (a - b) else none

theorem eq_of_addWithin {a b c : UInt64} (h : addWithin a b = some c) : c = a + b := by
  unfold addWithin at h
  split at h
  · exact (Option.some.inj h).symm
  · cases h

theorem eq_of_subWithin {a b c : UInt64} (h : subWithin a b = some c) : c = a - b := by
  unfold subWithin at h
  split at h
  · exact (Option.some.inj h).symm
  · cases h

/-- `findChange` for an observation that never fails, with each sum and difference checked in the
    order in which they are formed; none if one of them is no word (`binary_search_number`). -/
def findChangeChecked {β : Type} [BEq β] (f : UInt64 → β) (high low : UInt64) :
    Option (Option UInt64) :=
  if _h : f low == f high ∨ high ≤ low then some none
  else
    match _hn : addWithin low 1 with
    | none => none
    | some next =>
      if _h1 : high = next then some (some high)
      else
        match _hw : subWithin high low with
        | none => none
        | some width =>
          match _hm : addWithin low (width / 2) with
          | none => none
          | some mid =>
            match findChangeChecked f high mid, findChangeChecked f mid low with
            | some upper, some lower => some (upper.or lower)
            | _, _ => none
termination_by (high - low).toNat
decreasing_by
  all_goals
    obtain rfl := eq_of_addWithin _hn
    obtain rfl := eq_of_subWithin _hw
    obtain rfl := eq_of_addWithin _hm
    obtain ⟨hup, hdown⟩ := mid_bounds (UInt64.not_le.mp (not_or.mp _h).2) _h1
  · exact hup
  · exact hdown

/-! ## Deployments -/

/-- Whether the contract's code is there at a block (`BcSearch.is_contract_at_block`). -/
def hasCode (address : String) (number : UInt64) : Query NodeError Bool := do
  let code ← Query.getCode address (.number number)
  return isNonzeroWord code

/-- The block at which the code at an address begins, between bounds that are by default the first
    and the newest block (`BcSearch.deployment_block`). -/
def deploymentBlock (address : String) (high low : Option UInt64) :
    Query NodeError (Option UInt64) := do
  let high ← match high with
    | some n => Query.answer n
    | none => Query.getBlockNumber
  let found ← findChange (hasCode address) high (low.getD 1)
  Query.note ⟨.debug, "deployment block search finished",
    [("address", address), ("block", Quoted.optionalWord found)]⟩
  return found

/-- What is known in advance of a deployment; all else is asked from the node. -/
structure DeploymentQuery where
  blockNumber : Option UInt64
  block : Option Block
  trace : Option (List InternalTransaction)
  highBlock : Option UInt64

/-- How a contract came to exist: by a transaction of its own, or inside another one. The timestamp
    is that of the block. -/
inductive Deployment where
  | transaction (tx : BlockTransaction) (receipt : Receipt) (timestamp : UInt64)
  | internal (tx : InternalTransaction) (timestamp : UInt64)

namespace Deployment

/-- The time of the block (`Deployment.timestamp`). -/
def timestamp : Deployment → UInt64
  | transaction _ _ t => t
  | internal _ t => t

/-- The deployment as JSON (`Deployment.serialize`). -/
def toJson : Deployment → Json
  | transaction tx receipt t =>
    .obj [("tx", tx.toJson), ("receipt", receipt.toJson), ("timestamp", .ofWord t)]
  | internal tx t => .obj [("internalTx", tx.toJson), ("timestamp", .ofWord t)]

end Deployment

/-- Whether a transaction may have created a contract: its recipient is no address (in
    `BcSearch.deployment_tx`). -/
def BlockTransaction.mayCreate (tx : BlockTransaction) : Bool :=
  !(tx.recipient.any isHexAddress)

/-- Whether a receipt names the address as that of a new contract (in `BcSearch.deployment_tx`). -/
def Receipt.creates (r : Receipt) (address : String) : Bool :=
  r.contractAddress.any (LetterCase.equalIgnoringAsciiCase · address)

/-- The first of the transactions whose receipt names the address (in `BcSearch.deployment_tx`). -/
def creatingTransaction (address : String) :
    List BlockTransaction → Query NodeError (Option (BlockTransaction × Receipt))
  | [] => .answer none
  | tx :: rest => do
    match ← Query.getReceipt tx.hash with
    | some receipt =>
      if receipt.creates address then return some (tx, receipt)
      else creatingTransaction address rest
    | none => creatingTransaction address rest

/-- The transaction in a block that created the contract at an address (in
    `BcSearch.deployment_tx`). -/
def deploymentIn (address : String) (block : Block) (trace : Option (List InternalTransaction)) :
    Query NodeError (Option Deployment) := do
  match ← creatingTransaction address (block.transactions.filter (·.mayCreate)) with
  | some (tx, receipt) => return some (.transaction tx receipt block.timestamp)
  | none =>
    let trace ← match trace with
      | some entries => Query.answer entries
      | none => Query.getTrace block.hash
    return (trace.find? (·.creates address)).map fun tx => .internal tx block.timestamp

/-- The block with this number, which has to exist (in `BcSearch.deployment_tx`). -/
def existingBlock (number : UInt64) : Query NodeError Block := do
  match ← Query.getBlock (.number number) true with
  | some block => return block
  | none =>
    Query.fail (.invalidResponse "eth_getBlockByNumber"
      ("block " ++ Natural.decimal number ++ " not found"))

/-- The transaction that created the contract at an address (`BcSearch.deployment_tx`). -/
def deploymentOf (address : String) (query : DeploymentQuery) :
    Query NodeError (Option Deployment) := do
  let number ← match query.blockNumber with
    | some n => Query.answer (some n)
    | none => deploymentBlock address query.highBlock none
  match number with
  | none => return none
  | some number =>
    let block ← match query.block with
      | some block => Query.answer block
      | none => existingBlock number
    deploymentIn address block query.trace

end ContractLens
