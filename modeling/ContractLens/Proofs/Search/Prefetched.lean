import ContractLens.Proofs.Search.Deployment

/-!
# Deployments of which something is known

What is known in advance of a deployment only saves questions, as long as it is what the node itself
would say. Each of the four things that can be known stands for one part of the search, so the
search is compared part by part with the one that starts from nothing.

* `Node.Confirms`: all that is known in advance is what the node says.
* `deploymentBlock_spares`, `existingBlock_spares`, `deploymentIn_spares`: the parts of the search.
* `deploymentOf_confirmed`: the result is the same, and nothing else is asked.
-/

namespace ContractLens

/-- Nothing is known in advance. -/
def DeploymentQuery.unknown : DeploymentQuery := ⟨none, none, none, none⟩

section

variable {node : Node} {address : String} {query : DeploymentQuery} {number : UInt64}
  {block : Block}

/-- The search for the begin of the code at an address gives this number. -/
def Node.FindsCodeAt (node : Node) (address : String) (number : UInt64) : Prop :=
  ((deploymentBlock address none none).run node).result = .ok (some number)

/-- This is the block that is fetched for the number at which the code is found. -/
def Node.FindsCodeIn (node : Node) (address : String) (block : Block) : Prop :=
  ∃ number, node.FindsCodeAt address number ∧ node.block (.number number) true = .ok (some block)

/-- What is known in advance of a deployment is what the node says: its newest height, the number at
    which it finds the code, the block with this number, and the trace of this block. -/
structure Node.Confirms (node : Node) (address : String) (query : DeploymentQuery) : Prop where
  highBlock : ∀ n, query.highBlock = some n → node.blockNumber = .ok n
  blockNumber : ∀ n, query.blockNumber = some n → node.FindsCodeAt address n
  block : ∀ b, query.block = some b → node.FindsCodeIn address b
  trace : ∀ entries, query.trace = some entries →
    ∃ b, node.FindsCodeIn address b ∧ node.trace b.hash = .ok entries

/-! ## The number of the block -/

/-- The newest height is asked if it is not known. -/
theorem deploymentBlock_spares {high : Option UInt64}
    (hhigh : ∀ n, high = some n → node.blockNumber = .ok n) :
    (deploymentBlock address high none).Spares (deploymentBlock address none none) node := by
  unfold deploymentBlock
  cases high with
  | none => exact Query.spares_refl _ node
  | some n =>
    have hnewest : (Query.getBlockNumber.run node).result = .ok n := hhigh n rfl
    exact (Query.spares_answer hnewest).bind fun _ _ => Query.spares_refl _ node

/-! ## The block -/

theorem result_existingBlock (h : node.block (.number number) true = .ok (some block)) :
    ((existingBlock number).run node).result = .ok block := by
  rw [existingBlock, Query.result_bind, Query.getBlock, Query.result_ask, h]
  rfl

/-- Only one block is found. -/
theorem Node.FindsCodeIn.eq {other : Block} (hblock : node.FindsCodeIn address block)
    (hother : node.FindsCodeIn address other) : block = other := by
  obtain ⟨n, hn, hblock⟩ := hblock
  obtain ⟨k, hk, hother⟩ := hother
  obtain rfl : n = k := Option.some.inj (Except.ok.inj (hn.symm.trans hk))
  exact Option.some.inj (Except.ok.inj (hblock.symm.trans hother))

/-- What is fetched for the number that was found is the block that is found. -/
theorem findsCodeIn_of_existingBlock (hnumber : node.FindsCodeAt address number)
    (h : ((existingBlock number).run node).result = .ok block) :
    node.FindsCodeIn address block := by
  refine ⟨number, hnumber, ?_⟩
  rw [existingBlock, Query.result_bind, bind_eq_ok_iff] at h
  obtain ⟨reply, hreply, h⟩ := h
  cases reply with
  | none => cases h
  | some b =>
    cases h
    exact hreply

/-- The block is fetched if it is not known. -/
theorem existingBlock_spares (hnumber : node.FindsCodeAt address number)
    (hblock : node.FindsCodeIn address block) :
    (Query.answer block : Query NodeError Block).Spares (existingBlock number) node := by
  obtain ⟨n, hn, hreply⟩ := hblock
  obtain rfl : n = number := Option.some.inj (Except.ok.inj (hn.symm.trans hnumber))
  exact Query.spares_answer (result_existingBlock hreply)

/-! ## The trace -/

/-- The trace is asked if it is not known, and only if it is needed. -/
theorem deploymentIn_spares {trace : Option (List InternalTransaction)}
    (htrace : ∀ entries, trace = some entries → node.trace block.hash = .ok entries) :
    (deploymentIn address block trace).Spares (deploymentIn address block none) node := by
  unfold deploymentIn
  refine (Query.spares_refl _ node).bind fun created _ => ?_
  cases created with
  | some created => exact Query.spares_refl _ node
  | none =>
    cases trace with
    | none => exact Query.spares_refl _ node
    | some entries =>
      have hreply : ((Query.getTrace block.hash).run node).result = .ok entries :=
        htrace entries rfl
      exact (Query.spares_answer hreply).bind fun _ _ => Query.spares_refl _ node

/-! ## The whole search -/

/-- With the number found, what is known of the block and its trace only saves questions. -/
theorem Node.Confirms.spares_of_number (h : node.Confirms address query)
    (hnumber : node.FindsCodeAt address number) :
    (match query.block with
      | some b => Query.answer b >>= fun b => deploymentIn address b query.trace
      | none => existingBlock number >>= fun b => deploymentIn address b query.trace).Spares
      (existingBlock number >>= fun b => deploymentIn address b none) node := by
  have htrace : ∀ b, ((existingBlock number).run node).result = .ok b →
      (deploymentIn address b query.trace).Spares (deploymentIn address b none) node := by
    intro b hb
    refine deploymentIn_spares fun entries hentries => ?_
    obtain ⟨other, hother, hreply⟩ := h.trace entries hentries
    rwa [(findsCodeIn_of_existingBlock hnumber hb).eq hother]
  cases hblock : query.block with
  | some b => exact (existingBlock_spares hnumber (h.block b hblock)).bind htrace
  | none => exact (Query.spares_refl _ node).bind htrace

/-- Whatever part of the number, the block, its trace and the newest height is known in advance, if
    it is what the node says, then the search has the same result as the one for which nothing is
    known, and of the questions of that one it asks some or all, in the same order. -/
theorem deploymentOf_confirmed (h : node.Confirms address query) :
    (deploymentOf address query).Spares (deploymentOf address .unknown) node := by
  unfold deploymentOf
  cases hnumber : query.blockNumber
  case' some n =>
    refine (Query.spares_answer (h.blockNumber n hnumber)).bind fun found hfound => ?_
  case' none => refine (deploymentBlock_spares h.highBlock).bind fun found hfound => ?_
  all_goals
    cases found with
    | none => exact Query.spares_refl _ node
    | some number => exact h.spares_of_number hfound

end

/-- The address of a contract that a call creates. -/
def createdAddress : String := "0x1c2b7a9a8c8c7eeb6d17b8e5b3b5cc0e1c52b1a2"

/-- The entry of a trace in which it is created. -/
def creationEntry : InternalTransaction :=
  ⟨some "create", some ⟨some createdAddress⟩, some "0x01", some 2, .null⟩

/-- A block with a call and a transaction without a recipient. -/
def callBlock : Block :=
  ⟨2, "0xb2", 99, [⟨"0x01", none, some "0x00000000000000000000000000000000000000bb", some 2⟩,
    ⟨"0x02", none, none, some 2⟩]⟩

/-- A node at which the call creates the contract in the second and newest block. -/
def callNode : Node :=
  { Node.ofCode (fun n => if n < 2 then "0x" else "0x6080604052") 2 with
    block := fun _ _ => .ok (some callBlock)
    trace := fun _ => .ok [creationEntry] }

theorem findsCodeAt_callNode : callNode.FindsCodeAt createdAddress 2 := by
  have hcode : callNode.TellsCode createdAddress := fun n => ⟨_, rfl⟩
  have habsent : callNode.showsCode createdAddress 1 = false := by decide
  have hpresent : callNode.showsCode createdAddress 2 = true := by decide
  have hfound : changeBetween (callNode.showsCode createdAddress) 2 1 = some 2 := by
    rw [changeBetween_eq, habsent, hpresent]
    rfl
  have htop : callNode.upperBound none = .ok 2 := rfl
  exact (deploymentBlock_changeBetween hcode htop none).trans (congrArg _ hfound)

/-- Where all is known in advance, only a receipt is asked; where nothing is known, the answer is
    the same. -/
theorem deploymentOf_allKnown :
    let query : DeploymentQuery := ⟨some 2, some callBlock, some [creationEntry], some 2⟩
    callNode.Confirms createdAddress query ∧
      ((deploymentOf createdAddress query).run callNode).calls = [.receipt "0x02"] ∧
      ((deploymentOf createdAddress .unknown).run callNode).result =
        .ok (some (.internal creationEntry 99)) := by
  intro query
  have hblock : callNode.FindsCodeIn createdAddress callBlock := ⟨2, findsCodeAt_callNode, rfl⟩
  have hconfirms : callNode.Confirms createdAddress query := by
    constructor
    · rintro _ ⟨⟩
      rfl
    · rintro _ ⟨⟩
      exact findsCodeAt_callNode
    · rintro _ ⟨⟩
      exact hblock
    · rintro _ ⟨⟩
      exact ⟨callBlock, hblock, rfl⟩
  refine ⟨hconfirms, by decide +kernel, ?_⟩
  have hcandidates : callBlock.transactions.filter (·.mayCreate) =
      [⟨"0x02", none, none, some 2⟩] := by
    decide
  rw [← (deploymentOf_confirmed hconfirms).1]
  change ((deploymentIn createdAddress callBlock (some [creationEntry])).run callNode).result = _
  rw [deploymentIn, hcandidates, Query.result_bind]
  rfl

end ContractLens
