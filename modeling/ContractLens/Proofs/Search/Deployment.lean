import ContractLens.Proofs.Query
import ContractLens.Proofs.Search.Halving

/-!
# Where code begins

`deploymentBlock` looks for a change between code and no code. A change either way is an answer to
it, and an end of the range is no change, so it finds the first height with code only if there is no
code at the lower bound yet.

* `deploymentBlock_changeBetween`: at a node that always tells the code, the answer is the one of
  the search without effects.
* `deploymentBlock_isCodeBegin_iff`: the answer is the begin of the code exactly if there is no code
  at the lower bound.
-/

namespace ContractLens

/-! ## Code at a height -/

/-- Whether a node shows code at an address at a height: `0x` and hex digits that are not all
    zero. -/
def Node.showsCode (node : Node) (address : String) (n : UInt64) : Bool :=
  match node.code address (.number n) with
  | .ok code => isNonzeroWord code
  | .error _ => false

/-- The node tells the code at an address at every height. -/
def Node.TellsCode (node : Node) (address : String) : Prop :=
  ∀ n, ∃ code, node.code address (.number n) = .ok code

/-- The upper bound of a search: the newest height unless one is given. -/
def Node.upperBound (node : Node) : Option UInt64 → Except NodeError UInt64
  | some n => .ok n
  | none => node.blockNumber

/-- What a search for the begin of the code may answer: a height in the range with code, where the
    range begins or before which there is none, or nothing if there is no code at its end. -/
def IsCodeBegin (present : UInt64 → Bool) (low high : UInt64) : Option UInt64 → Prop
  | some n => low ≤ n ∧ n ≤ high ∧ present n = true ∧ (n = low ∨ present (n - 1) = false)
  | none => present high = false

theorem hasCode_result {node : Node} {address : String} (h : node.TellsCode address) (n : UInt64) :
    ((hasCode address n).run node).result = .ok (node.showsCode address n) := by
  obtain ⟨code, hc⟩ := h n
  unfold hasCode
  rw [Query.result_bind, Query.getCode, Query.result_ask, hc, Node.showsCode, hc]
  rfl

/-! ## The search -/

/-- At a node that always tells the code, the search is the one without effects. -/
theorem findChange_hasCode_result {node : Node} {address : String} (h : node.TellsCode address)
    (high low : UInt64) :
    ((findChange (hasCode address) high low).run node).result =
      .ok (changeBetween (node.showsCode address) high low) := by
  have hmap := map_findChange (n := Except NodeError) (fun q => (Query.run q node).result)
    (fun _ => rfl) (fun q f => Query.result_bind q f node) (hasCode address) high low
  rw [hmap, show (fun k => ((hasCode address k).run node).result) = _ from
    funext (hasCode_result h)]
  exact findChange_pure (m := Except NodeError) (node.showsCode address) high low

/-- The bounds are settled first, then the range between them is searched. -/
theorem deploymentBlock_result (node : Node) (address : String) (high low : Option UInt64) :
    ((deploymentBlock address high low).run node).result =
      node.upperBound high >>= fun top =>
        ((findChange (hasCode address) top (low.getD 1)).run node).result := by
  unfold deploymentBlock
  cases high with
  | none =>
    simp only [Query.result_bind, Query.getBlockNumber, Query.result_ask, Query.result_note,
      Query.result_pure, ok_bind, bind_ok, Node.upperBound]
  | some n =>
    simp only [Query.result_bind, Query.result_answer, Query.result_note, Query.result_pure,
      ok_bind, bind_ok, Node.upperBound]

/-- At a node that always tells the code, the answer is the one of the search without effects. -/
theorem deploymentBlock_changeBetween {node : Node} {address : String}
    (hcode : node.TellsCode address) {high : Option UInt64} {top : UInt64}
    (htop : node.upperBound high = .ok top) (low : Option UInt64) :
    ((deploymentBlock address high low).run node).result =
      .ok (changeBetween (node.showsCode address) top (low.getD 1)) := by
  rw [deploymentBlock_result, htop, ok_bind, findChange_hasCode_result hcode]

/-! ## The begin of the code -/

/-- Without code at the lower end, a change is where code begins. -/
theorem isCodeBegin_changeBetween {present : UInt64 → Bool} {low high : UInt64}
    (hlow : present low = false) (hle : low ≤ high) :
    IsCodeBegin present low high (changeBetween present high low) := by
  cases hfound : changeBetween present high low with
  | none =>
    rcases (changeBetween_eq_none_iff present high low).mp hfound with h | h
    · obtain rfl := UInt64.le_antisymm hle h
      exact hlow
    · rw [hlow] at h
      exact (eq_of_beq h).symm
  | some n =>
    obtain ⟨hln, hnh, hc, heq⟩ := changeBetween_spec hfound
    have hhigh : present high = true := by simpa [hlow] using (differ_of_changeBetween hfound).2
    have hn : present n = true := by rw [eq_of_beq heq, hhigh]
    refine ⟨UInt64.le_of_lt hln, hnh, hn, Or.inr ?_⟩
    simpa [ChangesAt, hn] using hc

/-- With code at the lower end, the answer is wrong: either nothing is found although there is code
    at the upper end, or the height that is found is one where there is no code any more. -/
theorem not_isCodeBegin_changeBetween {present : UInt64 → Bool} {low high : UInt64}
    (hlow : present low = true) (hle : low ≤ high) :
    ¬ IsCodeBegin present low high (changeBetween present high low) := by
  cases hfound : changeBetween present high low with
  | none =>
    have hhigh : present high = true := by
      rcases (changeBetween_eq_none_iff present high low).mp hfound with h | h
      · obtain rfl := UInt64.le_antisymm hle h
        exact hlow
      · rw [← eq_of_beq h, hlow]
    simp [IsCodeBegin, hhigh]
  | some n =>
    obtain ⟨-, -, -, heq⟩ := changeBetween_spec hfound
    have hn : present n = false := by
      rw [eq_of_beq heq]
      simpa [hlow] using (differ_of_changeBetween hfound).2
    simp [IsCodeBegin, hn]

/-- At a node that always tells the code and between bounds in order, the search gives an answer,
    and the answer is the begin of the code exactly if there is no code at the lower bound. -/
theorem deploymentBlock_isCodeBegin_iff {node : Node} {address : String} {high low : Option UInt64}
    {top : UInt64} (hcode : node.TellsCode address) (htop : node.upperBound high = .ok top)
    (hle : low.getD 1 ≤ top) :
    ∃ found, ((deploymentBlock address high low).run node).result = .ok found ∧
      (IsCodeBegin (node.showsCode address) (low.getD 1) top found ↔
        node.showsCode address (low.getD 1) = false) := by
  refine ⟨_, deploymentBlock_changeBetween hcode htop low, ?_⟩
  cases hlow : node.showsCode address (low.getD 1) with
  | false => simpa using isCodeBegin_changeBetween hlow hle
  | true => simpa using not_isCodeBegin_changeBetween hlow hle

/-- A node that tells the code at each height and the newest height. -/
def Node.ofCode (code : UInt64 → String) (newest : UInt64) : Node where
  code _ block := match block with
    | .number n => .ok (code n)
    | _ => .ok (code newest)
  storage _ _ _ := .ok "0x"
  call _ _ _ := .ok "0x"
  blockNumber := .ok newest
  block _ _ := .ok none
  receipt _ := .ok none
  trace _ := .ok []

theorem Node.ofCode_tellsCode (code : UInt64 → String) (newest : UInt64) (address : String) :
    (ofCode code newest).TellsCode address := fun n => ⟨code n, rfl⟩

/-- A contract that appears in the range is found. -/
theorem deploymentBlock_finds_new_code :
    let node := Node.ofCode (fun n => if n < 4242 then "0x" else "0x6080604052") 10000
    let address := "0x1c2b7a9a8c8c7eeb6d17b8e5b3b5cc0e1c52b1a2"
    node.TellsCode address ∧ node.upperBound none = .ok 10000 ∧ (none.getD 1 : UInt64) ≤ 10000 ∧
      ∃ found, ((deploymentBlock address none none).run node).result = .ok found ∧
        IsCodeBegin (node.showsCode address) 1 10000 found := by
  intro node address
  have hcode : node.TellsCode address := Node.ofCode_tellsCode _ _ _
  have htop : node.upperBound none = .ok 10000 := rfl
  have hle : (none.getD 1 : UInt64) ≤ 10000 := by decide
  obtain ⟨found, hrun, hbegin⟩ := deploymentBlock_isCodeBegin_iff hcode htop hle
  exact ⟨hcode, htop, hle, found, hrun, hbegin.mpr (by decide)⟩

/-- A contract that is there from the start is not found, and of one that goes away in the range the
    height is given at which it is gone. -/
theorem deploymentBlock_misses_old_code :
    let always := Node.ofCode (fun _ => "0x6080604052") 10
    let atFirst := Node.ofCode (fun n => if n < 5 then "0x6080604052" else "0x") 10
    let address := "0x1c2b7a9a8c8c7eeb6d17b8e5b3b5cc0e1c52b1a2"
    (((deploymentBlock address (some 10) (some 1)).run always).result = .ok none ∧
      ¬ IsCodeBegin (always.showsCode address) 1 10 none) ∧
    ∃ n, ((deploymentBlock address (some 10) (some 1)).run atFirst).result = .ok (some n) ∧
      ¬ IsCodeBegin (atFirst.showsCode address) 1 10 (some n) := by
  intro always atFirst address
  have halways : always.TellsCode address := Node.ofCode_tellsCode _ _ _
  have hfirst : atFirst.TellsCode address := Node.ofCode_tellsCode _ _ _
  constructor
  · have hnone : changeBetween (always.showsCode address) 10 1 = none :=
      changeBetween_of_beq (by decide)
    have hbad : ¬ IsCodeBegin _ 1 10 (changeBetween (always.showsCode address) 10 1) :=
      not_isCodeBegin_changeBetween (by decide) (by decide)
    rw [hnone] at hbad
    exact ⟨(deploymentBlock_changeBetween halways rfl _).trans (congrArg _ hnone), hbad⟩
  · obtain ⟨n, hn, -⟩ := changeBetween_of_differ (atFirst.showsCode address) 10 1 (by decide)
      (by decide)
    have hbad : ¬ IsCodeBegin _ 1 10 (changeBetween (atFirst.showsCode address) 10 1) :=
      not_isCodeBegin_changeBetween (by decide) (by decide)
    rw [hn] at hbad
    exact ⟨n, (deploymentBlock_changeBetween hfirst rfl _).trans (congrArg _ hn), hbad⟩

end ContractLens
