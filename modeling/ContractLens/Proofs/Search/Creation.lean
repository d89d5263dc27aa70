import ContractLens.Proofs.FirstOccurrences
import ContractLens.Proofs.Query
import ContractLens.Proofs.Text.LetterCase
import ContractLens.Search

/-!
# Which transaction created a contract

`deploymentOf` looks through a block in two scans. The first goes over the transactions that call no
address and asks for their receipts one by one, up to the first that names the contract. Only if
there is none, the second goes over the block's trace.

* `Node.Creates`: a transaction created the contract, by its receipt.
* `Scans`, `scans_creatingTransaction`: the ways in which the first scan ends.
* `Asks`, `IsDeployment`, `runs_deploymentIn`: what both scans ask and answer.
* `deploymentOf_spec`: what is asked, which reply may fail, and what the answer is.
-/

namespace ContractLens

/-! ## Transactions that create contracts -/

/-- A transaction calls an address. -/
def BlockTransaction.IsCall (tx : BlockTransaction) : Prop :=
  ∃ callee, tx.recipient = some callee ∧ IsAddress callee

theorem BlockTransaction.mayCreate_iff {tx : BlockTransaction} :
    tx.mayCreate = true ↔ ¬tx.IsCall := by
  rw [mayCreate, Bool.not_eq_true', ← Bool.not_eq_true, Option.any_eq_true]
  simp only [IsCall, isHexAddress_iff]

/-- A receipt names an address as that of a new contract, in any letter case. -/
def Receipt.Names (r : Receipt) (address : String) : Prop :=
  ∃ created, r.contractAddress = some created ∧
    LetterCase.asciiLower created = LetterCase.asciiLower address

theorem Receipt.creates_iff {r : Receipt} {address : String} :
    r.creates address = true ↔ r.Names address := by
  rw [creates, Option.any_eq_true]
  simp only [Names, LetterCase.equalIgnoringAsciiCase_iff]

/-- An entry of a trace is the creation of the contract at an address. -/
def InternalTransaction.IsCreation (t : InternalTransaction) (address : String) : Prop :=
  t.kind = some "create" ∧ ∃ created, t.result.bind TraceResult.address = some created ∧
    LetterCase.asciiLower created = LetterCase.asciiLower address

theorem InternalTransaction.creates_iff {t : InternalTransaction} {address : String} :
    t.creates address = true ↔ t.IsCreation address := by
  unfold creates IsCreation
  cases t.result.bind TraceResult.address <;> simp [LetterCase.equalIgnoringAsciiCase_iff]

/-- A transaction that calls no address has a receipt that names the contract. -/
def Node.Creates (node : Node) (address : String) (tx : BlockTransaction) (r : Receipt) : Prop :=
  ¬tx.IsCall ∧ node.receipt tx.hash = .ok (some r) ∧ r.Names address

/-- The transactions of a block that call no address. -/
def Block.candidates (block : Block) : List BlockTransaction :=
  block.transactions.filter (·.mayCreate)

theorem Block.mem_candidates_iff {block : Block} {tx : BlockTransaction} :
    tx ∈ block.candidates ↔ tx ∈ block.transactions ∧ ¬tx.IsCall := by
  rw [candidates, List.mem_filter, BlockTransaction.mayCreate_iff]

/-! ## Replies -/

/-- The failure that a reply is, if it is one. -/
def failureOf? {α : Type} : Except NodeError α → Option NodeError
  | .ok _ => none
  | .error e => some e

/-- The failure that a node replies to a call, if any. -/
def Node.failure? (node : Node) : NodeCall → Option NodeError
  | .code address block => failureOf? (node.code address block)
  | .storage address slot block => failureOf? (node.storage address slot block)
  | .call address data block => failureOf? (node.call address data block)
  | .blockNumber => failureOf? node.blockNumber
  | .block block full => failureOf? (node.block block full)
  | .receipt hash => failureOf? (node.receipt hash)
  | .trace hash => failureOf? (node.trace hash)

/-- The questions for the receipts of transactions. -/
def receiptCalls (txs : List BlockTransaction) : List NodeCall := txs.map (.receipt ·.hash)

/-! ## The scan of the receipts -/

variable {node : Node} {address : String}

/-- A reply that ends the scan: a failure, or a receipt that names the contract. -/
def Node.EndsScan (node : Node) (address : String) (call : NodeCall) : Prop :=
  (node.failure? call).isSome = true ∨
    ∃ hash r, call = .receipt hash ∧ node.receipt hash = .ok (some r) ∧ r.Names address

/-- A scan of the receipts of transactions makes these calls and ends like this. -/
inductive Scans (node : Node) (address : String) (txs : List BlockTransaction) :
    List NodeCall → Except NodeError (Option (BlockTransaction × Receipt)) → Prop
  | exhausted : (∀ c ∈ receiptCalls txs, ¬node.EndsScan address c) →
      Scans node address txs (receiptCalls txs) (.ok none)
  | created (before : List BlockTransaction) {after : List BlockTransaction}
      {tx : BlockTransaction} {r : Receipt} :
      txs = before ++ tx :: after → (∀ c ∈ receiptCalls before, ¬node.EndsScan address c) →
      node.receipt tx.hash = .ok (some r) → r.Names address →
      Scans node address txs (receiptCalls before ++ [.receipt tx.hash]) (.ok (some (tx, r)))
  | unreadable (before : List BlockTransaction) {after : List BlockTransaction}
      {tx : BlockTransaction} {e : NodeError} :
      txs = before ++ tx :: after → (∀ c ∈ receiptCalls before, ¬node.EndsScan address c) →
      node.receipt tx.hash = .error e →
      Scans node address txs (receiptCalls before ++ [.receipt tx.hash]) (.error e)

/-- One more transaction in front adds the question for its receipt if that does not end the
    scan. -/
theorem Scans.cons {tx : BlockTransaction} {txs : List BlockTransaction} {calls : List NodeCall}
    {result : Except NodeError (Option (BlockTransaction × Receipt))}
    (htx : ¬node.EndsScan address (.receipt tx.hash)) (h : Scans node address txs calls result) :
    Scans node address (tx :: txs) (.receipt tx.hash :: calls) result := by
  cases h with
  | exhausted hall => exact .exhausted (List.forall_mem_cons.mpr ⟨htx, hall⟩)
  | created before htxs hbefore hreceipt hnames =>
    subst htxs
    exact .created (tx :: before) rfl (List.forall_mem_cons.mpr ⟨htx, hbefore⟩) hreceipt hnames
  | unreadable before htxs hbefore hreceipt =>
    subst htxs
    exact .unreadable (tx :: before) rfl (List.forall_mem_cons.mpr ⟨htx, hbefore⟩) hreceipt

/-- A receipt that is read ends the scan if it names the contract. -/
theorem Node.endsScan_receipt_iff {hash : String} {reply : Option Receipt}
    (hreply : node.receipt hash = .ok reply) :
    node.EndsScan address (.receipt hash) ↔ ∃ r, reply = some r ∧ r.Names address := by
  simp [EndsScan, failure?, hreply, failureOf?]

theorem scans_creatingTransaction (node : Node) (address : String) (txs : List BlockTransaction) :
    ∃ calls result, (creatingTransaction address txs).Runs node calls result ∧
      Scans node address txs calls result := by
  induction txs with
  | nil => exact ⟨[], .ok none, Query.runs_pure none node, .exhausted nofun⟩
  | cons tx txs ih =>
    obtain ⟨calls, result, hruns, hscans⟩ := ih
    have hask : (Query.getReceipt tx.hash).Runs node [.receipt tx.hash] (node.receipt tx.hash) :=
      Query.runs_ask _ _ node
    rw [creatingTransaction]
    cases hreply : node.receipt tx.hash with
    | error e =>
      rw [hreply] at hask
      exact ⟨_, _, hask.bind_error, .unreadable [] rfl nofun hreply⟩
    | ok reply =>
      rw [hreply] at hask
      have hends : node.EndsScan address (.receipt tx.hash) ↔
          ∃ r, reply = some r ∧ r.Names address := Node.endsScan_receipt_iff hreply
      cases reply with
      | none => exact ⟨_, _, hask.bind hruns, hscans.cons (by simp [hends])⟩
      | some r =>
        by_cases hnames : r.Names address
        · refine ⟨_, _, hask.bind_quiet ?_, .created [] rfl nofun hreply hnames⟩
          simp only [Receipt.creates_iff.mpr hnames, if_true]
          exact Query.runs_pure _ node
        · refine ⟨_, _, hask.bind ?_, hscans.cons (by simp [hends, hnames])⟩
          simp only [mt Receipt.creates_iff.mp hnames, Bool.false_eq_true, if_false]
          exact hruns

/-- Calls that do not end the scan are no failures. -/
theorem findSome?_failure?_of_forall {calls : List NodeCall}
    (h : ∀ c ∈ calls, ¬node.EndsScan address c) : calls.findSome? node.failure? = none := by
  rw [List.findSome?_eq_none_iff]
  intro c hc
  by_contra hfails
  exact h c hc (.inl (Option.isSome_iff_ne_none.mpr hfails))

/-- So behind them only the last reply can be the first failure. -/
theorem findSome?_failure?_concat {calls : List NodeCall}
    (h : ∀ c ∈ calls, ¬node.EndsScan address c) (last : NodeCall) :
    (calls ++ [last]).findSome? node.failure? = node.failure? last := by
  rw [List.findSome?_append, findSome?_failure?_of_forall h, Option.none_or,
    List.findSome?_singleton]

/-! ## The search in a block -/

variable {block : Block} {trace : Option (List InternalTransaction)}

/-- No transaction of the block created the contract. -/
def Node.NoCreator (node : Node) (address : String) (block : Block) : Prop :=
  ∀ tx ∈ block.transactions, ∀ r, ¬node.Creates address tx r

/-- The entries of a block's trace, which is known or else the node's. -/
def Node.HasTrace (node : Node) (block : Block) :
    Option (List InternalTransaction) → List InternalTransaction → Prop
  | some known, entries => known = entries
  | none, entries => node.trace block.hash = .ok entries

/-- What a search in a block asks: receipts in the order of the block, then the trace, of both only
    what is needed. -/
structure Asks (node : Node) (address : String) (block : Block)
    (trace : Option (List InternalTransaction)) (asked : List NodeCall) : Prop where
  inOrder : asked <+: receiptCalls block.candidates ++ [.trace block.hash]
  onlyLastEnds : ∀ c ∈ asked.dropLast, ¬node.EndsScan address c
  trace_needed : ∀ hash, .trace hash ∈ asked → trace = none ∧ node.NoCreator address block

/-- What a search in a block answers: its first transaction that created the contract, else the
    first entry of its trace that did, with the time of the block, else nothing. -/
def IsDeployment (node : Node) (address : String) (block : Block)
    (trace : Option (List InternalTransaction)) : Option Deployment → Prop
  | some (.transaction tx r timestamp) => timestamp = block.timestamp ∧ node.Creates address tx r ∧
      IsFirst (fun t => ∃ r, node.Creates address t r) block.transactions tx
  | some (.internal entry timestamp) => timestamp = block.timestamp ∧
      node.NoCreator address block ∧ ∃ entries, node.HasTrace block trace entries ∧
        IsFirst (·.IsCreation address) entries entry
  | none => node.NoCreator address block ∧ ∃ entries, node.HasTrace block trace entries ∧
      ∀ entry ∈ entries, ¬entry.IsCreation address

theorem noCreator_of_forall (h : ∀ c ∈ receiptCalls block.candidates, ¬node.EndsScan address c) :
    node.NoCreator address block := by
  rintro tx htx r ⟨hcall, hreceipt, hnames⟩
  have hmem : tx ∈ block.candidates := Block.mem_candidates_iff.mpr ⟨htx, hcall⟩
  exact h _ (List.mem_map_of_mem hmem) (.inr ⟨_, r, rfl, hreceipt, hnames⟩)

/-- Without a candidate before it whose receipt names the contract, a creator is the first one. -/
theorem isFirst_creator {before after : List BlockTransaction} {tx : BlockTransaction} {r : Receipt}
    (hcandidates : block.candidates = before ++ tx :: after)
    (hbefore : ∀ c ∈ receiptCalls before, ¬node.EndsScan address c)
    (hreceipt : node.receipt tx.hash = .ok (some r)) (hnames : r.Names address) :
    node.Creates address tx r ∧
      IsFirst (fun t => ∃ r, node.Creates address t r) block.transactions tx := by
  have hmem : tx ∈ block.candidates := by simp [hcandidates]
  have hcreates : node.Creates address tx r :=
    ⟨(Block.mem_candidates_iff.mp hmem).2, hreceipt, hnames⟩
  have hfirst : IsFirst (fun t => ∃ r, node.Creates address t r) block.candidates tx := by
    refine ⟨before, after, hcandidates, ⟨r, hcreates⟩, ?_⟩
    rintro t ht ⟨r, -, hreceipt, hnames⟩
    exact hbefore _ (List.mem_map_of_mem ht) (.inr ⟨_, r, rfl, hreceipt, hnames⟩)
  refine ⟨hcreates, hfirst.of_filter.congr fun t => ?_⟩
  rw [BlockTransaction.mayCreate_iff]
  exact and_iff_right_of_imp fun ⟨_, h, _⟩ => h

/-- What is found in the entries of a trace if no transaction created the contract. -/
theorem isDeployment_internal (hnone : node.NoCreator address block)
    {entries : List InternalTransaction} (htrace : node.HasTrace block trace entries) :
    IsDeployment node address block trace
      ((entries.find? (·.creates address)).map (.internal · block.timestamp)) := by
  cases hfind : entries.find? (·.creates address) with
  | none =>
    refine ⟨hnone, entries, htrace, fun entry hentry => ?_⟩
    rw [← InternalTransaction.creates_iff]
    exact List.find?_eq_none.mp hfind entry hentry
  | some entry =>
    refine ⟨rfl, hnone, entries, htrace, (find?_eq_some_iff_isFirst.mp hfind).congr fun entry => ?_⟩
    exact InternalTransaction.creates_iff

/-- The receipts up to one that ends the scan are asked in order, and the trace is not. -/
theorem asks_receipts {before after : List BlockTransaction} {tx : BlockTransaction}
    (hcandidates : block.candidates = before ++ tx :: after)
    (hbefore : ∀ c ∈ receiptCalls before, ¬node.EndsScan address c) :
    Asks node address block trace (receiptCalls before ++ [.receipt tx.hash]) := by
  constructor
  · rw [hcandidates]
    simp [receiptCalls]
  · rwa [List.dropLast_concat]
  · simp [receiptCalls]

/-- After all receipts the trace is asked if it is not known. -/
theorem asks_trace (hall : ∀ c ∈ receiptCalls block.candidates, ¬node.EndsScan address c) :
    Asks node address block none (receiptCalls block.candidates ++ [.trace block.hash]) := by
  constructor
  · exact List.prefix_refl _
  · rwa [List.dropLast_concat]
  · exact fun _ _ => ⟨rfl, noCreator_of_forall hall⟩

/-- The search in a block asks and answers as it should. -/
theorem runs_deploymentIn (node : Node) (address : String) (block : Block)
    (trace : Option (List InternalTransaction)) :
    ∃ asked result, (deploymentIn address block trace).Runs node asked result ∧
      Asks node address block trace asked ∧
      match asked.findSome? node.failure? with
      | some e => result = .error e
      | none => ∃ found, result = .ok found ∧ IsDeployment node address block trace found := by
  obtain ⟨calls, result, hruns, hscans⟩ :=
    scans_creatingTransaction node address block.candidates
  unfold deploymentIn
  cases hscans with
  | @created before after tx r hcandidates hbefore hreceipt hnames =>
    refine ⟨_, _, hruns.bind_quiet (Query.runs_pure _ node), asks_receipts hcandidates hbefore, ?_⟩
    have hfailure : node.failure? (.receipt tx.hash) = none := by
      simp [Node.failure?, hreceipt, failureOf?]
    rw [findSome?_failure?_concat hbefore, hfailure]
    exact ⟨_, rfl, rfl, isFirst_creator hcandidates hbefore hreceipt hnames⟩
  | @unreadable before after tx e hcandidates hbefore hreceipt =>
    refine ⟨_, _, hruns.bind_error, asks_receipts hcandidates hbefore, ?_⟩
    have hfailure : node.failure? (.receipt tx.hash) = some e := by
      simp [Node.failure?, hreceipt, failureOf?]
    rw [findSome?_failure?_concat hbefore, hfailure]
  | exhausted hall =>
    have hnone : node.NoCreator address block := noCreator_of_forall hall
    cases trace with
    | some entries =>
      refine ⟨_, _, hruns.bind_quiet (Query.runs_pure _ node), ⟨?_, ?_, ?_⟩, ?_⟩
      · exact List.prefix_append _ _
      · exact fun c hc => hall c (List.mem_of_mem_dropLast hc)
      · simp [receiptCalls]
      · rw [findSome?_failure?_of_forall hall]
        exact ⟨_, rfl, isDeployment_internal hnone rfl⟩
    | none =>
      have hask : (Query.getTrace block.hash).Runs node [.trace block.hash]
          (node.trace block.hash) := Query.runs_ask _ _ node
      cases htrace : node.trace block.hash with
      | error e =>
        rw [htrace] at hask
        have hfailure : node.failure? (.trace block.hash) = some e := by
          simp [Node.failure?, htrace, failureOf?]
        refine ⟨_, _, hruns.bind hask.bind_error, asks_trace hall, ?_⟩
        rw [findSome?_failure?_concat hall, hfailure]
      | ok entries =>
        rw [htrace] at hask
        have hfailure : node.failure? (.trace block.hash) = none := by
          simp [Node.failure?, htrace, failureOf?]
        refine ⟨_, _, hruns.bind (hask.bind_quiet (Query.runs_pure _ node)), asks_trace hall, ?_⟩
        rw [findSome?_failure?_concat hall, hfailure]
        exact ⟨_, rfl, isDeployment_internal hnone htrace⟩

/-! ## The block of a deployment -/

/-- The number of the block that is searched: given, or found where the code at the address begins,
    by these calls. -/
def FindsNumber (node : Node) (address : String) (query : DeploymentQuery) (calls : List NodeCall)
    (number : UInt64) : Prop :=
  match query.blockNumber with
  | some n => calls = [] ∧ n = number
  | none => (deploymentBlock address query.highBlock none).Runs node calls (.ok (some number))

/-- The block that is searched: given, or the one with this number, by these calls. -/
def FetchesBlock (node : Node) (query : DeploymentQuery) (number : UInt64) (calls : List NodeCall)
    (block : Block) : Prop :=
  match query.block with
  | some b => calls = [] ∧ b = block
  | none => calls = [.block (.number number) true] ∧
      node.block (.number number) true = .ok (some block)

/-- A deployment is searched in a block after these calls. -/
def FindsBlock (node : Node) (address : String) (query : DeploymentQuery) (calls : List NodeCall)
    (block : Block) : Prop :=
  ∃ before after number, calls = before ++ after ∧ FindsNumber node address query before number ∧
    FetchesBlock node query number after block

section

variable {query : DeploymentQuery} {calls more : List NodeCall} {number : UInt64} {β : Type}
  {result : Except NodeError β}

/-- With the number of the block, a search goes on. -/
theorem FindsNumber.bind (h : FindsNumber node address query calls number)
    {f : Option UInt64 → Query NodeError β} (hf : (f (some number)).Runs node more result) :
    (match query.blockNumber with
      | some n => Query.answer (some n) >>= f
      | none => deploymentBlock address query.highBlock none >>= f).Runs node (calls ++ more)
        result := by
  unfold FindsNumber at h
  cases hnumber : query.blockNumber with
  | some n =>
    rw [hnumber] at h
    obtain ⟨rfl, rfl⟩ := h
    exact (Query.runs_pure _ node).bind hf
  | none =>
    rw [hnumber] at h
    exact h.bind hf

/-- With the block, a search goes on. -/
theorem FetchesBlock.bind (h : FetchesBlock node query number calls block)
    {f : Block → Query NodeError β} (hf : (f block).Runs node more result) :
    (match query.block with
      | some b => Query.answer b >>= f
      | none => existingBlock number >>= f).Runs node (calls ++ more) result := by
  unfold FetchesBlock at h
  cases hblock : query.block with
  | some b =>
    rw [hblock] at h
    obtain ⟨rfl, rfl⟩ := h
    exact (Query.runs_pure _ node).bind hf
  | none =>
    rw [hblock] at h
    obtain ⟨rfl, hreply⟩ := h
    have hask : (Query.getBlock (.number number) true).Runs node [.block (.number number) true]
        (node.block (.number number) true) := Query.runs_ask _ _ node
    rw [hreply] at hask
    have hexists : (existingBlock number).Runs node [.block (.number number) true] (.ok block) :=
      hask.bind_quiet (Query.runs_pure _ node)
    exact hexists.bind hf

end

/-! ## Deployments -/

/-- Where the block of a deployment is found, by whichever of its number and itself is given, the
    receipts of its transactions that call no address are asked in order, up to the first that fails
    or names the contract, then its trace if it is not known and no transaction created the
    contract. The first failure among these replies is the result. Without one, it is the block's
    first transaction that created the contract, else the first entry of its trace that did, else
    nothing. -/
theorem deploymentOf_spec {query : DeploymentQuery} {calls : List NodeCall}
    (hblock : FindsBlock node address query calls block) :
    ∃ asked result, (deploymentOf address query).Runs node (calls ++ asked) result ∧
      Asks node address block query.trace asked ∧
      match asked.findSome? node.failure? with
      | some e => result = .error e
      | none => ∃ found, result = .ok found ∧
          IsDeployment node address block query.trace found := by
  obtain ⟨before, after, number, rfl, hnumber, hfetch⟩ := hblock
  obtain ⟨asked, result, hruns, hasks, hresult⟩ := runs_deploymentIn node address block query.trace
  refine ⟨asked, result, ?_, hasks, hresult⟩
  unfold deploymentOf
  rw [List.append_assoc]
  exact hnumber.bind (hfetch.bind hruns)

/-- A transaction with this hash and recipient. -/
def txTo (hash : String) (recipient : Option String) : BlockTransaction :=
  ⟨hash, some "0x00000000000000000000000000000000000000aa", recipient, none⟩

/-- The receipt of a transaction with this hash for a new contract. -/
def creationReceipt (hash created : String) : Receipt := ⟨hash, some created, none, []⟩

/-- A block with a call, a transaction without a receipt, one that created a contract, and one
    more. -/
def creationBlock : Block :=
  ⟨7, "0xb7", 99, [txTo "0x01" (some "0x00000000000000000000000000000000000000bb"),
    txTo "0x02" none, txTo "0x03" (some ""), txTo "0x04" none]⟩

/-- A node with this block. It fails to reply to questions for the first and the last receipt. -/
def creationNode : Node where
  code _ _ := .ok "0x"
  storage _ _ _ := .ok "0x"
  call _ _ _ := .ok "0x"
  blockNumber := .ok 10
  block _ _ := .ok (some creationBlock)
  receipt hash :=
    if hash = "0x02" then .ok none
    else if hash = "0x03" then
      .ok (some (creationReceipt "0x03" "0x1C2B7A9A8C8C7EEB6D17B8E5B3B5CC0E1C52B1A2"))
    else .error .malformed
  trace _ := .ok []

/-- A transaction that created a contract in the block is the third one. -/
theorem eq_of_creates_creationNode {tx : BlockTransaction} {r : Receipt}
    (htx : tx ∈ creationBlock.transactions) (h : creationNode.Creates address tx r) :
    tx = txTo "0x03" (some "") ∧
      r = creationReceipt "0x03" "0x1C2B7A9A8C8C7EEB6D17B8E5B3B5CC0E1C52B1A2" := by
  obtain ⟨-, hreceipt, -⟩ := h
  simp only [creationBlock, List.mem_cons, List.not_mem_nil, or_false] at htx
  rcases htx with rfl | rfl | rfl | rfl
  · simp [creationNode, txTo] at hreceipt
  · simp [creationNode, txTo] at hreceipt
  · exact ⟨rfl, by simpa [creationNode, txTo, eq_comm] using hreceipt⟩
  · simp [creationNode, txTo] at hreceipt

/-- The third transaction created the contract; the failures before and behind it do not matter. -/
theorem deploymentOf_thirdTransaction :
    let address := "0x1c2b7a9a8c8c7eeb6d17b8e5b3b5cc0e1c52b1a2"
    let query : DeploymentQuery := ⟨some 7, none, none, none⟩
    let calls : List NodeCall := [.block (.number 7) true]
    FindsBlock creationNode address query calls creationBlock ∧
      Asks creationNode address creationBlock none [.receipt "0x02", .receipt "0x03"] ∧
      (deploymentOf address query).Runs creationNode (calls ++ [.receipt "0x02", .receipt "0x03"])
        (.ok (some (.transaction (txTo "0x03" (some ""))
          (creationReceipt "0x03" "0x1C2B7A9A8C8C7EEB6D17B8E5B3B5CC0E1C52B1A2") 99))) := by
  intro address query calls
  have hblock : FindsBlock creationNode address query calls creationBlock :=
    ⟨[], calls, 7, rfl, ⟨rfl, rfl⟩, rfl, rfl⟩
  obtain ⟨asked, result, hruns, hasks, hresult⟩ := deploymentOf_spec hblock
  have hcalls : ((deploymentOf address query).run creationNode).calls =
      calls ++ [.receipt "0x02", .receipt "0x03"] := by decide +kernel
  obtain rfl : asked = [.receipt "0x02", .receipt "0x03"] :=
    List.append_cancel_left (hruns.1.symm.trans hcalls)
  refine ⟨hblock, hasks, ?_⟩
  obtain ⟨found, rfl, hfound⟩ := hresult
  have hmem : txTo "0x03" (some "") ∈ creationBlock.transactions := by decide
  have hcreates : creationNode.Creates address (txTo "0x03" (some ""))
      (creationReceipt "0x03" "0x1C2B7A9A8C8C7EEB6D17B8E5B3B5CC0E1C52B1A2") := by
    refine ⟨?_, rfl, _, rfl, by decide⟩
    rw [← BlockTransaction.mayCreate_iff]
    decide
  cases found with
  | none => exact absurd hcreates (hfound.1 _ hmem _)
  | some found =>
    cases found with
    | internal entry timestamp => exact absurd hcreates (hfound.2.1 _ hmem _)
    | transaction tx r timestamp =>
      obtain ⟨rfl, htx, before, after, htransactions, -⟩ := hfound
      obtain ⟨rfl, rfl⟩ := eq_of_creates_creationNode (by simp [htransactions]) htx
      exact hruns

end ContractLens
