import ContractLens.Inspector
import ContractLens.Proofs.Proxy

/-!
# What inspecting a contract asks and tells

For any node, `Inspector.details` of an address that is not built in looks at the four slots, asks a
beacon if the third one was the first that is set, and then for the code of the implementation or of
the address itself, all at one block.

* `Inspects`: an inspection, as a resolution followed by one question for code.
* `inspects_details`: the details are those of an inspection.
* `details_spec`: what the calls have in common, which call may fail, and what the details tell.
-/

namespace ContractLens

/-- The block that a call names. -/
def NodeCall.block? : NodeCall → Option BlockTag
  | code _ b | storage _ _ b | call _ _ b | block b _ => some b
  | blockNumber | receipt _ | trace _ => none

namespace Inspector

open ProxyResolution (Resolves NoneFails LastFails FailsWith slotIsSet)

variable {i : Inspector} {node : Node} {address : String} {block : BlockTag}
  {calls : List NodeCall} {result : Except InspectError ContractDetails}

/-! ## Inspections -/

/-- The functions in code and the interfaces that they complete. -/
def findings (i : Inspector) (code : String) : MethodsAndInterfaces :=
  ⟨i.methodsInCode (some code), Abi.Interface.namesOfMethods (i.methodsInCode (some code))⟩

/-- An inspection makes these calls and ends like this. -/
inductive Inspects (i : Inspector) (node : Node) (address : String) (block : BlockTag) :
    List NodeCall → Except InspectError ContractDetails → Prop
  | unresolved {calls : List NodeCall} {e : InspectError} :
      Resolves node address block ProxyType.inOrder calls (.error e) →
      Inspects i node address block calls (.error e)
  | noCode {calls : List NodeCall} {r : ProxyResolution} {e : NodeError} :
      Resolves node address block ProxyType.inOrder calls (.ok r) →
      node.code (r.implementation.getD address) block = .error e →
      Inspects i node address block (calls ++ [.code (r.implementation.getD address) block])
        (.error (.node e))
  | inspected {calls : List NodeCall} {r : ProxyResolution} {code : String} :
      Resolves node address block ProxyType.inOrder calls (.ok r) →
      node.code (r.implementation.getD address) block = .ok code →
      Inspects i node address block (calls ++ [.code (r.implementation.getD address) block])
        (.ok (.ofResolution r (i.findings code)))

theorem runs_fingerprint (i : Inspector) (node : Node) (target : String) (block : BlockTag) :
    (i.fingerprint target block).Runs node [.code target block]
      (((node.code target block).mapError .node).map i.findings) := by
  have hask : ((Query.getCode target block).mapError InspectError.node).Runs node
      [.code target block] ((node.code target block).mapError .node) :=
    (Query.runs_ask _ _ node).mapError _
  unfold fingerprint
  cases hcode : node.code target block with
  | error e =>
    rw [hcode] at hask
    exact hask.bind_error
  | ok code =>
    rw [hcode] at hask
    exact hask.bind_quiet (Query.runs_pure _ node)

theorem inspects_inspect (i : Inspector) (node : Node) (address : String) (block : BlockTag) :
    ∃ calls result, (i.inspect address block).Runs node calls result ∧
      Inspects i node address block calls result := by
  obtain ⟨before, resolution, hruns, hresolves⟩ : ProxyResolution.Resolved node address block
    (ProxyResolution.resolve address block) ProxyType.inOrder := ProxyResolution.resolved_resolve
  unfold inspect
  cases resolution with
  | error e => exact ⟨_, _, hruns.bind_error, .unresolved hresolves⟩
  | ok r =>
    have hfound := runs_fingerprint i node (r.implementation.getD address) block
    cases hcode : node.code (r.implementation.getD address) block with
    | error e =>
      refine ⟨_, _, hruns.bind ?_, .noCode hresolves hcode⟩
      rw [hcode] at hfound
      cases himplementation : r.implementation with
      | none =>
        rw [himplementation] at hfound
        exact hfound.bind_error
      | some implementation =>
        rw [himplementation] at hfound
        exact (Query.runs_note _ node).bind hfound.bind_error
    | ok code =>
      refine ⟨_, _, hruns.bind ?_, .inspected hresolves hcode⟩
      rw [hcode] at hfound
      cases himplementation : r.implementation with
      | none =>
        obtain rfl := hresolves.eq_notProxy himplementation
        exact hfound.bind_quiet (Query.runs_pure _ node)
      | some implementation =>
        rw [himplementation] at hfound
        exact (Query.runs_note _ node).bind (hfound.bind_quiet (Query.runs_pure _ node))

/-- The details of an address that is not built in are those of an inspection. -/
theorem inspects_details (hnative : i.natives.isNative address = false) (node : Node)
    (block : BlockTag) :
    ∃ calls result, (i.details address block).Runs node calls result ∧
      Inspects i node address block calls result := by
  obtain ⟨calls, result, hruns, hinspects⟩ := inspects_inspect i node address block
  refine ⟨calls, result, ?_, hinspects⟩
  unfold details
  rw [if_neg (Bool.eq_false_iff.mp hnative)]
  refine (hruns.attempt InspectError).bind_quiet ?_
  cases result with
  | error e => exact (Query.runs_note _ node).bind_quiet (Query.runs_fail e node)
  | ok d => exact Query.runs_pure d node

/-! ## Calls -/

namespace Inspects

/-- All calls are about the same block. -/
theorem block?_eq (h : Inspects i node address block calls result) :
    ∀ c ∈ calls, c.block? = some block := by
  have hscan : ∀ {calls : List NodeCall} {resolution : Except InspectError ProxyResolution},
      Resolves node address block ProxyType.inOrder calls resolution →
      ∀ c ∈ calls, c.block? = some block := by
    intro calls resolution hresolves c hc
    obtain ⟨t, -, rfl⟩ | ⟨beacon, rfl⟩ := hresolves.mem_calls hc <;> rfl
  cases h with
  | unresolved hresolves => exact hscan hresolves
  | noCode hresolves | inspected hresolves =>
    exact List.forall_mem_append.mpr ⟨hscan hresolves, List.forall_mem_singleton.mpr rfl⟩

/-- A contract is only called if it is the beacon in the first slot that is set. -/
theorem find?_of_call_mem (h : Inspects i node address block calls result) {target data : String}
    {b : BlockTag} (hc : NodeCall.call target data b ∈ calls) :
    ProxyType.inOrder.find? (slotIsSet node address block) = some .erc1967Beacon := by
  cases h with
  | unresolved hresolves => exact hresolves.find?_of_call_mem hc
  | noCode hresolves | inspected hresolves =>
    exact hresolves.find?_of_call_mem (by simpa using hc)

/-- An inspection that fails ends with the first reply that is a failure. -/
theorem lastFails {e : InspectError} (h : Inspects i node address block calls (.error e)) :
    LastFails node calls e := by
  cases h with
  | unresolved hresolves => exact hresolves.lastFails
  | noCode hresolves hcode => exact ⟨_, _, rfl, hresolves.noneFails, .code hcode⟩

theorem noneFails {d : ContractDetails} (h : Inspects i node address block calls (.ok d)) :
    NoneFails node calls := by
  cases h with
  | inspected hresolves hcode =>
    refine List.forall_mem_append.mpr ⟨hresolves.noneFails, List.forall_mem_singleton.mpr ?_⟩
    exact ProxyResolution.not_failsWith_code hcode

end Inspects

/-! ## Details -/

/-- Code is asked for once, as the last question. -/
def AsksCodeLast (calls : List NodeCall) (target : String) (block : BlockTag) : Prop :=
  ∃ before, calls = before ++ [.code target block] ∧ ∀ a b, NodeCall.code a b ∉ before

/-- What details tell of an address as a proxy agrees with its slots. -/
structure Agrees (node : Node) (address : String) (block : BlockTag) (d : ContractDetails) :
    Prop where
  isProxy_iff : d.isProxy = true ↔ ∃ t, slotIsSet node address block t = true
  proxyType_isSome : d.proxyType.isSome = d.isProxy
  implementation_isSome : d.implementation.isSome = d.isProxy
  proxyType_eq : d.proxyType = ProxyType.inOrder.find? (slotIsSet node address block)
  beacon_isSome : d.beacon.isSome = true ↔ d.proxyType = some .erc1967Beacon

theorem Inspects.asksCodeLast {d : ContractDetails}
    (h : Inspects i node address block calls (.ok d)) :
    AsksCodeLast calls (d.implementation.getD address) block := by
  cases h with
  | inspected hresolves _ =>
    refine ⟨_, rfl, fun a b hc => ?_⟩
    obtain ⟨t, -, hcall⟩ | ⟨beacon, hcall⟩ := hresolves.mem_calls hc <;> cases hcall

theorem Inspects.agrees {d : ContractDetails} (h : Inspects i node address block calls (.ok d)) :
    Agrees node address block d := by
  cases h with
  | @inspected before r code hresolves _ =>
    have htype := hresolves.proxyType_eq
    have hconsistent := hresolves.consistent
    have hall : ∀ t, t ∈ ProxyType.inOrder := fun t => by cases t <;> decide
    constructor
    · change r.isProxy = true ↔ _
      rw [hconsistent.isProxy, htype, List.find?_isSome]
      exact ⟨fun ⟨t, _, ht⟩ => ⟨t, ht⟩, fun ⟨t, ht⟩ => ⟨t, hall t, ht⟩⟩
    · exact hconsistent.isProxy.symm
    · exact hconsistent.implementation.trans hconsistent.isProxy.symm
    · exact htype
    · change r.beacon.isSome = true ↔ r.proxyType = some .erc1967Beacon
      rw [hconsistent.beacon, beq_iff_eq]

/-- The details of an address that is not built in, for all replies of a node: what is asked and in
    which order, that it is asked at one block, that no contract is called but a beacon, that
    nothing is asked after a failure, which is then the error, and that otherwise the details agree
    with the slots. -/
theorem details_spec {i : Inspector} {address : String}
    (hnative : i.natives.isNative address = false) (node : Node) (block : BlockTag) :
    ∃ calls result, (i.details address block).Runs node calls result ∧
      Inspects i node address block calls result ∧ (∀ c ∈ calls, c.block? = some block) ∧
      (∀ target data b, NodeCall.call target data b ∈ calls →
        ProxyType.inOrder.find? (slotIsSet node address block) = some .erc1967Beacon) ∧
      match result with
      | .error e => LastFails node calls e
      | .ok d => NoneFails node calls ∧ Agrees node address block d ∧
          AsksCodeLast calls (d.implementation.getD address) block := by
  obtain ⟨calls, result, hruns, hinspects⟩ := inspects_details hnative node block
  refine ⟨calls, result, hruns, hinspects, hinspects.block?_eq,
    fun _ _ _ => hinspects.find?_of_call_mem, ?_⟩
  cases result with
  | error e => exact hinspects.lastFails
  | ok d => exact ⟨hinspects.noneFails, hinspects.agrees, hinspects.asksCodeLast⟩

/-- A node with one contract, which is behind a beacon. -/
def beaconProxyNode : Node where
  code _ _ := .ok "0x6080604052"
  storage _ slot _ :=
    if slot = ProxyType.erc1967Beacon.slot then
      .ok "0x000000000000000000000000bea0bea0bea0bea0bea0bea0bea0bea0bea0bea0"
    else .ok "0x0"
  call _ _ _ := .ok "0x000000000000000000000000beefbeefbeefbeefbeefbeefbeefbeefbeefbeef"
  blockNumber := .ok 10
  block _ _ := .ok none
  receipt _ := .ok none
  trace _ := .ok []

/-- An inspector of the standard built-in contracts that knows no functions. -/
def bare : Inspector := ⟨[], .empty, ⟨[]⟩, NativeContracts.ofConfig .standard, none, none⟩

/-- The contract behind a beacon is found to be one. -/
theorem details_beaconProxy :
    let address := "0x1c2b7a9a8c8c7eeb6d17b8e5b3b5cc0e1c52b1a2"
    bare.natives.isNative address = false ∧
      ∃ calls d, (bare.details address .latest).Runs beaconProxyNode calls (.ok d) ∧
        (∀ c ∈ calls, c.block? = some .latest) ∧ d.isProxy = true ∧
        d.proxyType = some .erc1967Beacon ∧ d.beacon.isSome = true ∧
        AsksCodeLast calls (d.implementation.getD address) .latest := by
  intro address
  have hnative : bare.natives.isNative address = false := by decide +kernel
  obtain ⟨calls, result, hruns, -, hblock, -, hresult⟩ :=
    details_spec hnative beaconProxyNode .latest
  cases result with
  | error e =>
    -- none of the node's replies is a failure
    obtain ⟨_, last, -, -, hlast⟩ := hresult
    have hreply : ∃ implementation, ProxyResolution.beaconReply (.ok
        "0x000000000000000000000000beefbeefbeefbeefbeefbeefbeefbeefbeefbeef") =
          .ok implementation := by
      refine ⟨_, toOption_eq_some_iff.mp (?_ : _ = some
        "0xbeefbeefbeefbeefbeefbeefbeefbeefbeefbeef")⟩
      decide +kernel
    cases hlast with
    | code h => cases h
    | storage h =>
      simp only [beaconProxyNode] at h
      split_ifs at h
    | beacon h =>
      obtain ⟨implementation, hok⟩ := hreply
      exact absurd (h.symm.trans hok) nofun
  | ok d =>
    obtain ⟨-, hagrees, hcode⟩ := hresult
    have htype : d.proxyType = some .erc1967Beacon := hagrees.proxyType_eq.trans (by decide +kernel)
    have hproxy : d.isProxy = true := by rw [← hagrees.proxyType_isSome, htype, Option.isSome_some]
    exact ⟨hnative, calls, d, hruns, hblock, hproxy, htype, hagrees.beacon_isSome.mpr htype, hcode⟩

end Inspector

end ContractLens
