import ContractLens.Proofs.Proxy

/-!
# Addresses that resolutions take from storage

A resolution takes one address from storage: the implementation, or the beacon that is asked for it.
It stands in the slot of the pattern that the resolution tells, and it is well-formed unless the
node spells the word with fewer than forty digits behind `0X`.

* `ProxyResolution.stored?`: the address that a resolution takes from storage.
* `Resolves.stored?_eq`: it is what `slotAddress?` makes of the word in the pattern's slot.
* `stored_isAddressOf_iff`: which of these addresses are well-formed.
-/

namespace ContractLens

/-- A resolution's address that comes from storage: the beacon if there is one by the pattern, else
    the implementation. -/
def ProxyResolution.stored? (r : ProxyResolution) : Option String :=
  if r.proxyType = some .erc1967Beacon then r.beacon else r.implementation

namespace ProxyResolution

variable {node : Node} {address : String} {block : BlockTag}

/-- The address comes from the word in the slot of the pattern. -/
theorem Resolves.stored?_eq {types : List ProxyType} {calls : List NodeCall} {r : ProxyResolution}
    (h : Resolves node address block types calls (.ok r)) {t : ProxyType}
    (ht : r.proxyType = some t) :
    ∃ word, node.storage address t.slot block = .ok word ∧ NonzeroWord word ∧
      (slotAddress? word).isSome = true ∧ r.stored? = slotAddress? word := by
  generalize hresult : Except.ok r = result at h
  induction h with
  | exhausted =>
    cases hresult
    cases ht
  | unreadable | deadBeacon => cases hresult
  | zero _ _ _ ih => exact ih hresult
  | direct hne hstorage hword haddress =>
    cases hresult
    obtain rfl := Option.some.inj ht
    have hother : ¬some _ = some ProxyType.erc1967Beacon := mt Option.some.inj hne
    refine ⟨_, hstorage, hword, by rw [haddress]; rfl, ?_⟩
    rw [haddress, stored?, found, if_neg hother]
  | beacon hstorage hword haddress =>
    cases hresult
    obtain rfl := Option.some.inj ht
    exact ⟨_, hstorage, hword, by rw [haddress]; rfl, by rw [haddress]; rfl⟩

/-- Out of a word that is not zero comes the address of the word's number, or no address at all if
    fewer than forty digits stand behind `0X`. So it is with the address that a resolution takes
    from the slot of its pattern. -/
theorem stored_isAddressOf_iff (node : Node) (address : String) (block : BlockTag) :
    (∀ word, NonzeroWord word → ∃ a, slotAddress? word = some a ∧
      (IsAddressOf a (wordValue word % 2 ^ 160) ↔ ¬ShortUppercase word) ∧
      (IsAddress a ↔ ¬ShortUppercase word)) ∧
    ∀ q ∈ checks address block, ∀ r, (q.run node).result = .ok r → ∀ t, r.proxyType = some t →
      ∃ word a, node.storage address t.slot block = .ok word ∧ NonzeroWord word ∧
        r.stored? = some a ∧
        (IsAddressOf a (wordValue word % 2 ^ 160) ↔ ¬ShortUppercase word) ∧
        (IsAddress a ↔ ¬ShortUppercase word) := by
  refine ⟨fun word => exists_isAddressOf_iff, ?_⟩
  intro q hq r hr t ht
  obtain ⟨types, hresolved⟩ := resolved_of_mem_checks node hq
  obtain ⟨calls, hresolves⟩ := hresolved.resolves
  rw [hr] at hresolves
  obtain ⟨word, hstorage, hword, -, hstored⟩ := hresolves.stored?_eq ht
  obtain ⟨a, ha, hiff⟩ := exists_isAddressOf_iff hword
  exact ⟨word, a, hstorage, hword, hstored.trans ha, hiff⟩

/-- A node that shows one word in the first slot that is looked at. -/
def firstSlotNode (word : String) : Node where
  code _ _ := .ok "0x"
  storage _ slot _ := .ok (if slot = ProxyType.uups.slot then word else "0x0")
  call _ _ _ := .ok "0x"
  blockNumber := .ok 0
  block _ _ := .ok none
  receipt _ := .ok none
  trace _ := .ok []

theorem resolve_firstSlotNode {word a : String} (hword : NonzeroWord word)
    (ha : slotAddress? word = some a) (address : String) (block : BlockTag) :
    ((resolve address block).run (firstSlotNode word)).result =
      .ok (found address .uups a none) := by
  have hstorage : (firstSlotNode word).storage address ProxyType.uups.slot block = .ok word := rfl
  have hresolved : Resolved (firstSlotNode word) address block (resolve address block)
    ProxyType.inOrder := resolved_resolve
  obtain ⟨calls, hresolves⟩ := hresolved.resolves
  generalize ((resolve address block).run (firstSlotNode word)).result = result at hresolves ⊢
  cases hresolves with
  | unreadable h => cases h
  | zero h hzero =>
    obtain rfl := Except.ok.inj (hstorage.symm.trans h)
    exact absurd hword hzero
  | direct _ h _ ha' =>
    obtain rfl := Except.ok.inj (hstorage.symm.trans h)
    obtain rfl := Option.some.inj (ha.symm.trans ha')
    rfl

/-- A word of four digits has the address of its number, and a resolution finds this address. -/
theorem stored_isAddressOf_beef :
    ∃ a r, slotAddress? "0xBEef" = some a ∧ IsAddressOf a 0xbeef ∧
      ((resolve "0x1c2b7a9a8c8c7eeb6d17b8e5b3b5cc0e1c52b1a2" .latest).run
        (firstSlotNode "0xBEef")).result = .ok r ∧ r.stored? = some a := by
  obtain ⟨hwords, hchecks⟩ := stored_isAddressOf_iff (firstSlotNode "0xBEef")
    "0x1c2b7a9a8c8c7eeb6d17b8e5b3b5cc0e1c52b1a2" .latest
  have hword : NonzeroWord "0xBEef" := by decide +kernel
  have hshort : ¬ShortUppercase "0xBEef" := by
    rintro ⟨digits, hdigits, -⟩
    exact absurd (List.cons.inj (List.cons.inj hdigits).2).1 (by decide)
  obtain ⟨a, ha, -⟩ := hwords _ hword
  have hr := resolve_firstSlotNode hword ha "0x1c2b7a9a8c8c7eeb6d17b8e5b3b5cc0e1c52b1a2" .latest
  obtain ⟨word, a', hstorage, -, hstored, hof, -⟩ :=
    hchecks _ List.mem_cons_self _ hr .uups rfl
  obtain rfl := Except.ok.inj hstorage
  obtain rfl := Option.some.inj hstored
  exact ⟨a, _, ha, hof.mpr hshort, hr, hstored⟩

/-- Of a word with two digits behind `0X` an `x` gets into what a resolution finds. -/
theorem stored_uppercase_not_isAddress :
    NonzeroWord "0X01" ∧
      slotAddress? "0X01" = some "0x0000000000000000000000000000000000000x01" ∧
      ¬IsAddress "0x0000000000000000000000000000000000000x01" ∧
      ((resolve "0x1c2b7a9a8c8c7eeb6d17b8e5b3b5cc0e1c52b1a2" .latest).run
        (firstSlotNode "0X01")).result =
          .ok (found "0x1c2b7a9a8c8c7eeb6d17b8e5b3b5cc0e1c52b1a2" .uups
            "0x0000000000000000000000000000000000000x01" none) := by
  have hword : NonzeroWord "0X01" := by decide +kernel
  have ha : slotAddress? "0X01" = some "0x0000000000000000000000000000000000000x01" := by
    decide +kernel
  have hnone : ¬IsAddress "0x0000000000000000000000000000000000000x01" := by
    rw [← isHexAddress_iff]
    decide +kernel
  exact ⟨hword, ha, hnone, resolve_firstSlotNode hword ha _ _⟩

end ProxyResolution

end ContractLens
