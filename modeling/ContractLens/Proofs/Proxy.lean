import ContractLens.Proofs.Query
import ContractLens.Proofs.StorageWord

/-!
# How proxies are resolved

What a resolution asks a node, and what comes of it, for any replies.

* `runs_beaconImplementation`: a beacon is asked once, and all that it can answer.
* `Resolves`: a resolution, slot by slot.
* `Resolved.orElse`: the step from a few patterns to more of them.
* `resolved_resolve`: the resolution looks at the four slots in order.
-/

namespace ContractLens

namespace ProxyType

/-- The patterns in the order in which their slots are looked at. -/
def inOrder : List ProxyType := [uups, erc1967, erc1967Beacon, unstructuredStorage]

end ProxyType

namespace ProxyResolution

variable {node : Node} {address : String} {block : BlockTag}

/-! ## Beacons -/

/-- The data of a call of `implementation()`, which has no parameters. -/
def beaconData : String := "0x5c60da1b"

/-- What the reply of a beacon says: the implementation in its first word, or why there is none. -/
def beaconReply : Except NodeError String → Except InspectError String
  | .error e => .error (.node e)
  | .ok text =>
    match decodeHex text with
    | .error e => .error (.decode e)
    | .ok raw =>
      if raw.length < 32 then .error (.decode (.outputMismatch "implementation" .overrun))
      else .ok (Hex.encodePrefixed ((raw.take 32).drop 12))

theorem encodeCall_implementation (beacon : String) :
    Contract.encodeCall ⟨beaconAbi, beacon⟩ "implementation" [] = .ok [0x5c, 0x60, 0xda, 0x1b] := by
  -- the data does not depend on the address
  change Contract.encodeCall ⟨beaconAbi, ""⟩ "implementation" [] = _
  rw [← toOption_eq_some_iff]
  decide +kernel

theorem function_implementation (beacon : String) :
    Contract.function ⟨beaconAbi, beacon⟩ "implementation" =
      .ok (.ofFunction "implementation" [] [.plain "" "address"]) := by
  change Contract.function ⟨beaconAbi, ""⟩ "implementation" = _
  rw [← toOption_eq_some_iff]
  decide +kernel

theorem decodeParams_address (raw : List UInt8) :
    Abi.AbiType.decodeParams [.address] raw =
      if raw.length < 32 then .error .overrun else .ok [.address ((raw.take 32).drop 12)] := by
  have hwords : Abi.AbiType.minWordsSum [.address] % Nat.pow 2 64 = 1 := rfl
  rw [Abi.AbiType.decodeParams.eq_def, if_neg (by decide), hwords]
  by_cases hshort : raw.length < 32
  · rw [if_pos (by omega), if_pos hshort]
  · rw [if_neg (by omega), if_neg hshort]
    have hword : Abi.Cursor.word ⟨raw, raw, 0⟩ = .ok (raw.take 32, ⟨raw, raw.drop 32, 0⟩) :=
      if_neg hshort
    simp only [Abi.AbiType.reserveAll, Abi.AbiType.reserve, Abi.AbiType.decodeAll,
      Abi.AbiType.decode, Abi.Cursor.wordValue, Abi.Cursor.ofBytes, hword]

/-- The first word of returned data is the implementation. -/
theorem decodeCall_implementation (beacon : String) (raw : List UInt8) :
    Contract.decodeCall ⟨beaconAbi, beacon⟩ "implementation" raw =
      if raw.length < 32 then .error (.outputMismatch "implementation" .overrun)
      else .ok (.address (Hex.encodePrefixed ((raw.take 32).drop 12))) := by
  have htypes : [Abi.Param.plain "" "address"].mapM EventDecoder.paramType =
      .ok [.address] := rfl
  rw [Contract.decodeCall, function_implementation, ok_bind, Abi.Fragment.ofFunction, htypes,
    if_neg (by decide), ok_bind, decodeParams_address]
  split_ifs <;> rfl

/-- A beacon is asked once for its implementation. -/
theorem runs_call_implementation (node : Node) (beacon : String) (block : BlockTag) :
    (Contract.call ⟨beaconAbi, beacon⟩ "implementation" [] block).Runs node
      [.call beacon beaconData block]
      ((beaconReply (node.call beacon beaconData block)).map .address) := by
  have hdata : Hex.encodePrefixed [0x5c, 0x60, 0xda, 0x1b] = beaconData := by decide
  have hask : ((Query.callContract beacon beaconData block).mapError InspectError.node).Runs node
      [.call beacon beaconData block] ((node.call beacon beaconData block).mapError .node) :=
    (Query.runs_ask _ _ node).mapError _
  unfold Contract.call
  rw [encodeCall_implementation]
  refine (Query.runs_ofExcept (.ok _) node).bind ?_
  rw [hdata]
  cases hreply : node.call beacon beaconData block with
  | error e =>
    rw [hreply] at hask
    exact hask.bind_error
  | ok text =>
    rw [hreply] at hask
    refine hask.bind_quiet ?_
    rw [beaconReply]
    cases htext : decodeHex text with
    | error e => exact (Query.runs_ofExcept (.error _) node).bind_error
    | ok raw =>
      refine (Query.runs_ofExcept (.ok _) node).bind_quiet ?_
      rw [decodeCall_implementation]
      dsimp only
      split_ifs <;> exact Query.runs_ofExcept _ node

/-- What a beacon names is the implementation; else the resolution fails with the reason. -/
theorem runs_beaconImplementation (node : Node) (address beacon : String) (block : BlockTag) :
    (beaconImplementation address beacon block).Runs node [.call beacon beaconData block]
      ((beaconReply (node.call beacon beaconData block)).mapError
        fun e => .beacon beacon e.message) := by
  have hcall := (runs_call_implementation node beacon block).attempt InspectError
  unfold beaconImplementation
  refine hcall.bind_quiet ?_
  cases beaconReply (node.call beacon beaconData block) with
  | error e => exact (Query.runs_note _ node).bind_quiet (Query.runs_fail _ node)
  | ok implementation => exact Query.runs_pure _ node

/-! ## Slots -/

/-- A resolution that looks at the slots of these patterns makes these calls and ends like this. -/
inductive Resolves (node : Node) (address : String) (block : BlockTag) :
    List ProxyType → List NodeCall → Except InspectError ProxyResolution → Prop
  | exhausted : Resolves node address block [] [] (.ok (notProxy address))
  | unreadable {t : ProxyType} {ts : List ProxyType} {e : NodeError} :
      node.storage address t.slot block = .error e →
      Resolves node address block (t :: ts) [.storage address t.slot block] (.error (.node e))
  | zero {t : ProxyType} {ts : List ProxyType} {word : String} {calls : List NodeCall}
      {result : Except InspectError ProxyResolution} :
      node.storage address t.slot block = .ok word → ¬NonzeroWord word →
      Resolves node address block ts calls result →
      Resolves node address block (t :: ts) (.storage address t.slot block :: calls) result
  | direct {t : ProxyType} {ts : List ProxyType} {word implementation : String} :
      t ≠ .erc1967Beacon → node.storage address t.slot block = .ok word → NonzeroWord word →
      slotAddress? word = some implementation →
      Resolves node address block (t :: ts) [.storage address t.slot block]
        (.ok (found address t implementation none))
  | beacon {ts : List ProxyType} {word beacon implementation : String} :
      node.storage address ProxyType.erc1967Beacon.slot block = .ok word → NonzeroWord word →
      slotAddress? word = some beacon →
      beaconReply (node.call beacon beaconData block) = .ok implementation →
      Resolves node address block (.erc1967Beacon :: ts)
        [.storage address ProxyType.erc1967Beacon.slot block, .call beacon beaconData block]
        (.ok (found address .erc1967Beacon implementation (some beacon)))
  | deadBeacon {ts : List ProxyType} {word beacon : String} {e : InspectError} :
      node.storage address ProxyType.erc1967Beacon.slot block = .ok word → NonzeroWord word →
      slotAddress? word = some beacon →
      beaconReply (node.call beacon beaconData block) = .error e →
      Resolves node address block (.erc1967Beacon :: ts)
        [.storage address ProxyType.erc1967Beacon.slot block, .call beacon beaconData block]
        (.error (.beacon beacon e.message))

/-- Whether a node shows a word in the slot of a pattern that is not zero. -/
def slotIsSet (node : Node) (address : String) (block : BlockTag) (t : ProxyType) : Bool :=
  match node.storage address t.slot block with
  | .ok word => decide (NonzeroWord word)
  | .error _ => false

/-- The parts of a resolution tell the same about whether there is a proxy, and a beacon. -/
structure Consistent (r : ProxyResolution) : Prop where
  isProxy : r.isProxy = r.proxyType.isSome
  implementation : r.implementation.isSome = r.proxyType.isSome
  beacon : r.beacon.isSome = (r.proxyType == some .erc1967Beacon)

/-- What a query asks and answers is a resolution by the slots of these patterns. -/
def Resolved (node : Node) (address : String) (block : BlockTag)
    (q : Query InspectError ProxyResolution) (types : List ProxyType) : Prop :=
  ∃ calls result, q.Runs node calls result ∧ Resolves node address block types calls result

/-- What a resolution ends with, whatever its calls are. -/
theorem Resolved.resolves {q : Query InspectError ProxyResolution} {types : List ProxyType}
    (h : Resolved node address block q types) :
    ∃ calls, Resolves node address block types calls (q.run node).result := by
  obtain ⟨calls, result, ⟨-, rfl⟩, hresolves⟩ := h
  exact ⟨calls, hresolves⟩

theorem runs_readSlot (node : Node) (address : String) (t : ProxyType) (block : BlockTag) :
    (readSlot address t block).Runs node [.storage address t.slot block]
      ((node.storage address t.slot block).mapError .node) := by
  have hask : (Query.getStorage address t.slot block).Runs node [.storage address t.slot block]
      (node.storage address t.slot block) := Query.runs_ask _ _ node
  unfold readSlot
  refine (Query.runs_note _ node).bind ((hask.attempt InspectError).bind_quiet ?_)
  cases node.storage address t.slot block with
  | error e => exact (Query.runs_note _ node).bind_quiet (Query.runs_fail _ node)
  | ok word => exact Query.runs_pure word node

/-- One slot that holds the implementation itself. -/
theorem resolved_bySlot {t : ProxyType} (ht : t ≠ .erc1967Beacon) :
    Resolved node address block (bySlot address t block) [t] := by
  have hread := runs_readSlot node address t block
  unfold bySlot
  cases hstorage : node.storage address t.slot block with
  | error e =>
    rw [hstorage] at hread
    exact ⟨_, _, hread.bind_error, .unreadable hstorage⟩
  | ok word =>
    rw [hstorage] at hread
    by_cases hword : NonzeroWord word
    · obtain ⟨implementation, haddress⟩ := exists_slotAddress? hword
      refine ⟨_, _, hread.bind_quiet ?_, .direct ht hstorage hword haddress⟩
      rw [if_pos ((isNonzeroWord_iff word).mpr hword), wordAddress, haddress]
      exact (Query.runs_pure implementation node).bind_quiet (Query.runs_pure _ node)
    · refine ⟨_, _, hread.bind_quiet ?_, .zero hstorage hword .exhausted⟩
      rw [if_neg (mt (isNonzeroWord_iff word).mp hword)]
      exact Query.runs_pure _ node

/-- The slot that holds a beacon. -/
theorem resolved_byBeacon :
    Resolved node address block (byBeacon address block) [.erc1967Beacon] := by
  have hread := runs_readSlot node address .erc1967Beacon block
  unfold byBeacon
  cases hstorage : node.storage address ProxyType.erc1967Beacon.slot block with
  | error e =>
    rw [hstorage] at hread
    exact ⟨_, _, hread.bind_error, .unreadable hstorage⟩
  | ok word =>
    rw [hstorage] at hread
    by_cases hword : NonzeroWord word
    · obtain ⟨beacon, haddress⟩ := exists_slotAddress? hword
      have hbeacon := runs_beaconImplementation node address beacon block
      cases hreply : beaconReply (node.call beacon beaconData block) with
      | error e =>
        rw [hreply] at hbeacon
        refine ⟨_, _, hread.bind ?_, .deadBeacon hstorage hword haddress hreply⟩
        rw [if_pos ((isNonzeroWord_iff word).mpr hword), wordAddress, haddress]
        exact (Query.runs_pure beacon node).bind hbeacon.bind_error
      | ok implementation =>
        rw [hreply] at hbeacon
        refine ⟨_, _, hread.bind ?_, .beacon hstorage hword haddress hreply⟩
        rw [if_pos ((isNonzeroWord_iff word).mpr hword), wordAddress, haddress]
        exact (Query.runs_pure beacon node).bind (hbeacon.bind_quiet (Query.runs_pure _ node))
    · refine ⟨_, _, hread.bind_quiet ?_, .zero hstorage hword .exhausted⟩
      rw [if_neg (mt (isNonzeroWord_iff word).mp hword)]
      exact Query.runs_pure _ node

/-- More patterns count only where the first ones find no proxy. -/
theorem Resolves.append {types types' : List ProxyType} {calls calls' : List NodeCall}
    {result result' : Except InspectError ProxyResolution}
    (h : Resolves node address block types calls result)
    (h' : Resolves node address block types' calls' result') :
    match result with
    | .error _ => Resolves node address block (types ++ types') calls result
    | .ok r =>
      if r.isProxy then Resolves node address block (types ++ types') calls result
      else Resolves node address block (types ++ types') (calls ++ calls') result' := by
  induction h with
  | exhausted => exact h'
  | unreadable hstorage => exact .unreadable hstorage
  | @zero _ _ _ _ result hstorage hword _ ih =>
    cases result with
    | error e => exact .zero hstorage hword ih
    | ok r =>
      cases hr : r.isProxy with
      | true =>
        simp only [hr, if_true] at ih ⊢
        exact .zero hstorage hword ih
      | false =>
        simp only [hr, Bool.false_eq_true, if_false] at ih ⊢
        exact .zero hstorage hword ih
  | direct ht hstorage hword haddress => exact .direct ht hstorage hword haddress
  | beacon hstorage hword haddress hreply => exact .beacon hstorage hword haddress hreply
  | deadBeacon hstorage hword haddress hreply => exact .deadBeacon hstorage hword haddress hreply

theorem Resolved.orElse {q q' : Query InspectError ProxyResolution} {types types' : List ProxyType}
    (h : Resolved node address block q types) (h' : Resolved node address block q' types') :
    Resolved node address block (q >>= fun r => if r.isProxy then pure r else q')
      (types ++ types') := by
  obtain ⟨calls, result, hruns, hresolves⟩ := h
  obtain ⟨calls', result', hruns', hresolves'⟩ := h'
  have happend := hresolves.append hresolves'
  cases result with
  | error e => exact ⟨_, _, hruns.bind_error, happend⟩
  | ok r =>
    cases hr : r.isProxy with
    | true =>
      simp only [hr, if_true] at happend
      refine ⟨_, _, hruns.bind_quiet ?_, happend⟩
      rw [if_pos hr]
      exact Query.runs_pure r node
    | false =>
      simp only [hr, Bool.false_eq_true, if_false] at happend
      refine ⟨_, _, hruns.bind ?_, happend⟩
      rw [if_neg (Bool.eq_false_iff.mp hr)]
      exact hruns'

theorem resolved_byErc1967 :
    Resolved node address block (byErc1967 address block) [.erc1967, .erc1967Beacon] :=
  (resolved_bySlot (t := .erc1967) (by decide)).orElse resolved_byBeacon

/-- All four slots are looked at in order. -/
theorem resolved_resolve : Resolved node address block (resolve address block) ProxyType.inOrder :=
  (resolved_bySlot (t := .uups) (by decide)).orElse
    (resolved_byErc1967.orElse (resolved_bySlot (by decide)))

/-- The resolutions that are offered: by all slots, and by those of each standard alone. -/
def checks (address : String) (block : BlockTag) : List (Query InspectError ProxyResolution) :=
  [resolve address block, bySlot address .uups block, byErc1967 address block,
    bySlot address .unstructuredStorage block]

theorem resolved_of_mem_checks (node : Node) {q : Query InspectError ProxyResolution}
    (h : q ∈ checks address block) : ∃ types, Resolved node address block q types := by
  simp only [checks, List.mem_cons, List.not_mem_nil, or_false] at h
  obtain rfl | rfl | rfl | rfl := h
  · exact ⟨_, resolved_resolve⟩
  · exact ⟨_, resolved_bySlot (by decide)⟩
  · exact ⟨_, resolved_byErc1967⟩
  · exact ⟨_, resolved_bySlot (by decide)⟩

/-! ## Failing calls -/

/-- A reply that ends an inspection, and the error that it ends with. -/
inductive FailsWith (node : Node) : NodeCall → InspectError → Prop
  | code {address : String} {block : BlockTag} {e : NodeError} :
      node.code address block = .error e → FailsWith node (.code address block) (.node e)
  | storage {address slot : String} {block : BlockTag} {e : NodeError} :
      node.storage address slot block = .error e →
      FailsWith node (.storage address slot block) (.node e)
  | beacon {beacon data : String} {block : BlockTag} {e : InspectError} :
      beaconReply (node.call beacon data block) = .error e →
      FailsWith node (.call beacon data block) (.beacon beacon e.message)

/-- No reply is one that ends an inspection. -/
def NoneFails (node : Node) (calls : List NodeCall) : Prop := ∀ c ∈ calls, ∀ e, ¬FailsWith node c e

/-- The last reply and no other one is the end of the inspection. -/
def LastFails (node : Node) (calls : List NodeCall) (e : InspectError) : Prop :=
  ∃ before last, calls = before ++ [last] ∧ NoneFails node before ∧ FailsWith node last e

theorem noneFails_nil : NoneFails node [] := nofun

theorem NoneFails.cons {c : NodeCall} {calls : List NodeCall} (hc : ∀ e, ¬FailsWith node c e)
    (h : NoneFails node calls) : NoneFails node (c :: calls) := List.forall_mem_cons.mpr ⟨hc, h⟩

theorem LastFails.cons {c : NodeCall} {calls : List NodeCall} {e : InspectError}
    (hc : ∀ e, ¬FailsWith node c e) (h : LastFails node calls e) :
    LastFails node (c :: calls) e := by
  obtain ⟨before, last, rfl, hbefore, hlast⟩ := h
  exact ⟨c :: before, last, rfl, hbefore.cons hc, hlast⟩

theorem FailsWith.lastFails {c : NodeCall} {e : InspectError} (h : FailsWith node c e) :
    LastFails node [c] e := ⟨[], c, rfl, noneFails_nil, h⟩

theorem not_failsWith_code {code : String} (h : node.code address block = .ok code)
    (e : InspectError) : ¬FailsWith node (.code address block) e := by
  rintro ⟨⟩
  simp_all

theorem not_failsWith_storage {slot word : String} (h : node.storage address slot block = .ok word)
    (e : InspectError) : ¬FailsWith node (.storage address slot block) e := by
  rintro ⟨⟩
  simp_all

theorem not_failsWith_beacon {beacon data implementation : String}
    (h : beaconReply (node.call beacon data block) = .ok implementation) (e : InspectError) :
    ¬FailsWith node (.call beacon data block) e := by
  rintro ⟨⟩
  simp_all

namespace Resolves

variable {types : List ProxyType} {calls : List NodeCall}
  {result : Except InspectError ProxyResolution}

/-- If the resolution fails, so does its last call alone. -/
theorem lastFails {e : InspectError} (h : Resolves node address block types calls (.error e)) :
    LastFails node calls e := by
  generalize hresult : Except.error e = result at h
  induction h with
  | exhausted => cases hresult
  | unreadable hstorage =>
    cases hresult
    exact (FailsWith.storage hstorage).lastFails
  | zero hstorage _ _ ih => exact (ih hresult).cons (not_failsWith_storage hstorage)
  | direct => cases hresult
  | beacon => cases hresult
  | deadBeacon hstorage _ _ hreply =>
    cases hresult
    exact (FailsWith.beacon hreply).lastFails.cons (not_failsWith_storage hstorage)

theorem noneFails {r : ProxyResolution} (h : Resolves node address block types calls (.ok r)) :
    NoneFails node calls := by
  generalize hresult : Except.ok r = result at h
  induction h with
  | exhausted => exact noneFails_nil
  | unreadable => cases hresult
  | zero hstorage _ _ ih => exact (ih hresult).cons (not_failsWith_storage hstorage)
  | direct _ hstorage => exact noneFails_nil.cons (not_failsWith_storage hstorage)
  | beacon hstorage _ _ hreply =>
    exact (noneFails_nil.cons (not_failsWith_beacon hreply)).cons (not_failsWith_storage hstorage)
  | deadBeacon => cases hresult

/-- Only slots of the address and at most a beacon are asked, all at the same block. -/
theorem mem_calls (h : Resolves node address block types calls result) {c : NodeCall}
    (hc : c ∈ calls) : (∃ t ∈ types, c = .storage address t.slot block) ∨
      ∃ beacon, c = .call beacon beaconData block := by
  induction h with
  | exhausted => cases hc
  | unreadable | direct =>
    rw [List.mem_singleton] at hc
    exact .inl ⟨_, List.mem_cons_self, hc⟩
  | zero _ _ _ ih =>
    obtain rfl | hc := List.mem_cons.mp hc
    · exact .inl ⟨_, List.mem_cons_self, rfl⟩
    · exact (ih hc).imp_left fun ⟨t, ht, hcall⟩ => ⟨t, List.mem_cons_of_mem _ ht, hcall⟩
  | beacon | deadBeacon =>
    rw [List.mem_cons, List.mem_singleton] at hc
    exact hc.imp (fun hc => ⟨_, List.mem_cons_self, hc⟩) fun hc => ⟨_, hc⟩

/-- A beacon is only asked where its slot is the first one that is set. -/
theorem find?_of_call_mem (h : Resolves node address block types calls result)
    {target data : String} {b : BlockTag} (hc : NodeCall.call target data b ∈ calls) :
    types.find? (slotIsSet node address block) = some .erc1967Beacon := by
  induction h with
  | exhausted => cases hc
  | unreadable | direct => simp at hc
  | zero hstorage hword _ ih =>
    rw [List.find?_cons_of_neg (by simp [slotIsSet, hstorage, hword])]
    exact ih (by simpa using hc)
  | beacon hstorage hword | deadBeacon hstorage hword =>
    exact List.find?_cons_of_pos (by simp [slotIsSet, hstorage, hword])

/-- The pattern of a resolution is the first one whose slot is set. -/
theorem proxyType_eq {r : ProxyResolution}
    (h : Resolves node address block types calls (.ok r)) :
    r.proxyType = types.find? (slotIsSet node address block) := by
  generalize hresult : Except.ok r = result at h
  induction h with
  | exhausted =>
    cases hresult
    rfl
  | unreadable | deadBeacon => cases hresult
  | zero hstorage hword _ ih =>
    rw [List.find?_cons_of_neg (by simp [slotIsSet, hstorage, hword])]
    exact ih hresult
  | direct _ hstorage hword | beacon hstorage hword =>
    cases hresult
    exact (List.find?_cons_of_pos (by simp [slotIsSet, hstorage, hword])).symm

/-- A resolution without an implementation is the one of no proxy. -/
theorem eq_notProxy {r : ProxyResolution} (h : Resolves node address block types calls (.ok r))
    (hr : r.implementation = none) : r = notProxy address := by
  generalize hresult : Except.ok r = result at h
  induction h with
  | exhausted => exact Except.ok.inj hresult
  | unreadable | deadBeacon => cases hresult
  | zero _ _ _ ih => exact ih hresult
  | direct | beacon =>
    cases hresult
    cases hr

theorem consistent {r : ProxyResolution}
    (h : Resolves node address block types calls (.ok r)) : r.Consistent := by
  generalize hresult : Except.ok r = result at h
  induction h with
  | exhausted =>
    cases hresult
    exact ⟨rfl, rfl, rfl⟩
  | unreadable | deadBeacon => cases hresult
  | zero _ _ _ ih => exact ih hresult
  | direct ht =>
    cases hresult
    exact ⟨rfl, rfl, (beq_eq_false_iff_ne.mpr fun hsome => ht (Option.some.inj hsome)).symm⟩
  | beacon =>
    cases hresult
    exact ⟨rfl, rfl, rfl⟩

end Resolves

end ProxyResolution

end ContractLens
