import ContractLens.Node.Block
import ContractLens.Notice

/-!
# Questions to a node

A `Node` is the answers that a node gives. A `Query` is an activity that asks a node, and its
`Outcome` holds the answer or the error with everything that was asked, in order, and all notices.

After a first error nothing more is asked: the calls of `q >>= f` are those of `q` alone if `q`
fails.
-/

namespace ContractLens

/-- The answers of a node (`NodeClient`). -/
structure Node where
  /-- The code at an address, `0x` where there is none. -/
  code : String → BlockTag → Except NodeError String
  /-- The word in a storage slot of an address. -/
  storage : String → String → BlockTag → Except NodeError String
  /-- The data that a call of an address with some data returns. -/
  call : String → String → BlockTag → Except NodeError String
  /-- The number of the newest block. -/
  blockNumber : Except NodeError UInt64
  /-- A block, with its transactions in full or not. -/
  block : BlockTag → Bool → Except NodeError (Option Block)
  /-- The receipt of a transaction. -/
  receipt : String → Except NodeError (Option Receipt)
  /-- The trace of the block with this hash. -/
  trace : String → Except NodeError (List InternalTransaction)

/-- A question that was put to a node. -/
inductive NodeCall where
  | code (address : String) (block : BlockTag)
  | storage (address slot : String) (block : BlockTag)
  | call (address data : String) (block : BlockTag)
  | blockNumber
  | block (block : BlockTag) (full : Bool)
  | receipt (hash : String)
  | trace (hash : String)
deriving DecidableEq, Repr

/-- What came of an activity: its answer or error, the calls it made and the notices it gave. -/
structure Outcome (ε α : Type) where
  result : Except ε α
  calls : List NodeCall
  notices : List Notice

/-- An activity that asks a node. -/
def Query (ε α : Type) : Type := Node → Outcome ε α

namespace Query

variable {ε ε' α β : Type}

/-- What comes of an activity at a node. -/
def run (q : Query ε α) (node : Node) : Outcome ε α := q node

/-- An answer without asking. -/
def answer (a : α) : Query ε α := fun _ => ⟨.ok a, [], []⟩

/-- An error without asking. -/
def fail (e : ε) : Query ε α := fun _ => ⟨.error e, [], []⟩

/-- One activity and then another that depends on its answer. -/
def andThen (q : Query ε α) (f : α → Query ε β) : Query ε β := fun node =>
  let first := q node
  match first.result with
  | .error e => ⟨.error e, first.calls, first.notices⟩
  | .ok a =>
    let second := f a node
    ⟨second.result, first.calls ++ second.calls, first.notices ++ second.notices⟩

instance : Monad (Query ε) where
  pure := answer
  bind := andThen

/-- One notice. -/
def note (n : Notice) : Query ε Unit := fun _ => ⟨.ok (), [], [n]⟩

/-- One question. -/
def ask (call : NodeCall) (reply : Node → Except ε α) : Query ε α := fun node =>
  ⟨reply node, [call], []⟩

/-- An answer or error that needs no node. -/
def ofExcept (r : Except ε α) : Query ε α := fun _ => ⟨r, [], []⟩

/-- An activity whose error becomes part of its answer. -/
def attempt (q : Query ε α) : Query ε' (Except ε α) := fun node =>
  let o := q node
  ⟨.ok o.result, o.calls, o.notices⟩

/-- An activity with its error put into other words. -/
def mapError (f : ε → ε') (q : Query ε α) : Query ε' α := fun node =>
  let o := q node
  ⟨o.result.mapError f, o.calls, o.notices⟩

/-! ## Single questions -/

/-- The code at an address (`NodeClient.get_code`). -/
def getCode (address : String) (block : BlockTag) : Query NodeError String :=
  ask (.code address block) fun node => node.code address block

/-- The word in a storage slot (`NodeClient.get_storage_at`). -/
def getStorage (address slot : String) (block : BlockTag) : Query NodeError String :=
  ask (.storage address slot block) fun node => node.storage address slot block

/-- The data that a call returns (`NodeClient.call`). -/
def callContract (address data : String) (block : BlockTag) : Query NodeError String :=
  ask (.call address data block) fun node => node.call address data block

/-- The number of the newest block (`NodeClient.block_number`). -/
def getBlockNumber : Query NodeError UInt64 := ask .blockNumber fun node => node.blockNumber

/-- A block (`NodeClient.get_block`). -/
def getBlock (block : BlockTag) (full : Bool) : Query NodeError (Option Block) :=
  ask (.block block full) fun node => node.block block full

/-- The receipt of a transaction (`NodeClient.get_transaction_receipt`). -/
def getReceipt (hash : String) : Query NodeError (Option Receipt) :=
  ask (.receipt hash) fun node => node.receipt hash

/-- The trace of a block (`NodeClient.trace_block`). -/
def getTrace (hash : String) : Query NodeError (List InternalTransaction) :=
  ask (.trace hash) fun node => node.trace hash

end Query

end ContractLens
