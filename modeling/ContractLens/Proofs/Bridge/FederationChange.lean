import ContractLens.Proofs.Bridge.FederationFields
import ContractLens.Proofs.Bridge.LegacyLog

/-!
# Federation changes are read back

A change of the federation is logged as RLP: the keys and the address of the old and of the new
federation, then the height as decimal text. The log is decoded to these five values on any network.
The keys keep all their bytes since a list keeps its encoding as a field; the address and the height
do because a text that does not start with a NUL loses nothing.

* `FederationChange`: a change, with its encoding and its arguments.
* `args_commitFederation`: the arguments that are read from its encoding.
* `decodeLegacyLog_federationChange`: what its log is decoded to.
-/

namespace ContractLens.Bridge

open Rlp (Item)

/-! ## Changes -/

/-- A federation: its public keys and its address. -/
structure Federation where
  keys : List (List UInt8)
  address : String

namespace Federation

/-- The address is not empty and does not start with a NUL. -/
def Valid (f : Federation) : Prop := f.address ≠ "" ∧ f.address.toList.head? ≠ some '\x00'

/-- The federation in RLP. -/
def item (f : Federation) : Item := .list [.list (f.keys.map .bytes), .bytes (utf8Bytes f.address)]

/-- The federation as arguments. -/
def args (f : Federation) : List Value := [.array (f.keys.map .bytes), .str f.address]

end Federation

/-- A change of the federation at a height. -/
structure FederationChange where
  old : Federation
  new : Federation
  height : ℕ

namespace FederationChange

/-- Both addresses are valid, and the height has at most 128 bits. -/
structure Valid (c : FederationChange) : Prop where
  old : c.old.Valid
  new : c.new.Valid
  height : c.height < 2 ^ 128

/-- The change in RLP, with the height as decimal text. -/
def item (c : FederationChange) : Item :=
  .list [c.old.item, c.new.item, .bytes (utf8Bytes (toString c.height))]

/-- The change as arguments. -/
def args (c : FederationChange) : List Value := c.old.args ++ c.new.args ++ [.uint c.height]

end FederationChange

/-! ## Fields -/

/-- The event of a change among the legacy events. -/
def commitFederation (network : Network) : LegacyEvent where
  name := "commit_federation"
  layout := .federationChange
  inputs := [(.plain "oldFederationBtcPublicKeys" "bytes[]", .publicKeys),
    (.plain "oldFederationBtcAddress" "string", .btcAddress network),
    (.plain "newFederationBtcPublicKeys" "bytes[]", .publicKeys),
    (.plain "newFederationBtcAddress" "string", .btcAddress network),
    (.plain "activationHeight" "uint256", .decimal)]

theorem findLegacyEvent_commitFederation (network : Network) :
    findLegacyEvent (legacyEvents network) "commit_federation" = some (commitFederation network) :=
  rfl

theorem itemField_address {f : Federation} (h : f.Valid) :
    itemField (.bytes (utf8Bytes f.address)) = utf8Bytes f.address :=
  trimLeadingZeros_utf8Bytes h.1 h.2

theorem itemField_toString (n : ℕ) :
    itemField (.bytes (utf8Bytes (toString n))) = utf8Bytes (toString n) := by
  refine trimLeadingZeros_utf8Bytes ?_ fun hnul => ?_
  · rw [Nat.toString_eq_repr]
    exact Nat.repr_ne_empty
  · exact absurd (ascii_of_mem_toString (List.mem_of_mem_head? hnul)).1 (by decide)

/-- The fields of a change: lists keep their encoding and texts lose nothing. -/
theorem federationFields_item {c : FederationChange} (h : c.Valid) (hfits : c.item.Fits)
    {data : String} (hdata : decodeHex data = .ok c.item.encode) :
    federationFields data = .ok [(Item.list (c.old.keys.map .bytes)).encode,
      utf8Bytes c.old.address, (Item.list (c.new.keys.map .bytes)).encode,
      utf8Bytes c.new.address, utf8Bytes (toString c.height)] := by
  have hfields := federationFields_encode hfits hdata
  simp only [List.map_cons, List.map_nil, itemField_address h.old, itemField_address h.new,
    itemField_toString] at hfields
  exact hfields

/-- Both lists of keys have lengths that fit, as the whole change has. -/
theorem fits_keys {c : FederationChange} (hfits : c.item.Fits) :
    (Item.list (c.old.keys.map .bytes)).Fits ∧ (Item.list (c.new.keys.map .bytes)).Fits := by
  have hentries := Rlp.fits_of_mem hfits
  have hold : c.old.item.Fits := hentries _ (List.mem_cons_self ..)
  have hnew : c.new.item.Fits := hentries _ (List.mem_cons_of_mem _ (List.mem_cons_self ..))
  exact ⟨Rlp.fits_of_mem hold _ (List.mem_cons_self ..),
    Rlp.fits_of_mem hnew _ (List.mem_cons_self ..)⟩

/-! ## Logs -/

theorem isEmpty_str {s : String} (h : s ≠ "") : (Value.str s).isEmpty = false := by
  rw [Value.isEmpty, ← Bool.not_eq_true, String.isEmpty_iff]
  exact h

/-- The arguments that are read from the encoding of a change. -/
theorem args_commitFederation {network : Network} {c : FederationChange} (h : c.Valid)
    (hfits : c.item.Fits) (topics : List String) {data : String}
    (hdata : decodeHex data = .ok c.item.encode) :
    ((commitFederation network).args topics data).value = .ok c.args := by
  obtain ⟨hold, hnew⟩ := fits_keys hfits
  rw [LegacyEvent.args, commitFederation, PayloadLayout.fields, federationFields_item h hfits hdata]
  exact legacyArgs_cons_of_field rfl (inputValue_publicKeys hold _) rfl <|
    legacyArgs_cons_of_field rfl (inputValue_btcAddress _ network _) (isEmpty_str h.old.1) <|
    legacyArgs_cons_of_field rfl (inputValue_publicKeys hnew _) rfl <|
    legacyArgs_cons_of_field rfl (inputValue_btcAddress _ network _) (isEmpty_str h.new.1) <|
    legacyArgs_cons_of_field rfl (inputValue_decimal h.height _) rfl rfl

/-- The log of a federation change is decoded to the keys and the addresses of both federations and
    the height. Its first topic is the name of the event with zeros behind it, its data the change
    in RLP. -/
theorem decodeLegacyLog_federationChange {network : Network} {c : FederationChange} (h : c.Valid)
    (hfits : c.item.Fits) {log : RawLog} {topic : String} {topics : List String} {zeros : ℕ}
    (htopics : log.topics = topic :: topics) (htopic : decodeHex topic =
      .ok (utf8Bytes "commit_federation" ++ List.replicate zeros 0))
    (hdata : decodeHex log.data = .ok c.item.encode) :
    ∃ event ∈ legacyEvents network, event.name = "commit_federation" ∧
      (decodeLegacyLog (legacyEvents network) log).value = .decoded log
        ⟨"commit_federation", event.hash, event.fragment,
          [.array (c.old.keys.map .bytes), .str c.old.address,
            .array (c.new.keys.map .bytes), .str c.new.address, .uint c.height]⟩ := by
  have hascii : ∀ c ∈ "commit_federation".toList, 0 < c.toNat ∧ c.toNat < 0x80 := by simp
  have hname : eventName topic = .ok "commit_federation" := eventName_of_padded hascii htopic
  have hfind := findLegacyEvent_commitFederation network
  exact ⟨commitFederation network, List.mem_of_find?_eq_some hfind, rfl,
    decodeLegacyLog_of_args htopics hname hfind (args_commitFederation h hfits topics hdata)⟩

/-- A federation with a key of zeros, and one without keys whose address is not in ASCII. -/
theorem decodeLegacyLog_federationChange_keys :
    let key : List UInt8 := 2 :: List.replicate 32 0xaa
    let c : FederationChange := ⟨⟨[key, [0, 0]], "2Nabc"⟩, ⟨[], "é"⟩, 2000000⟩
    let log := bridgeLog [utf8Bytes "commit_federation" ++ List.replicate 15 0] c.item.encode 500000
    c.Valid ∧ c.item.Fits ∧ ∃ event ∈ legacyEvents .testnet, event.name = "commit_federation" ∧
      (decodeLegacyLog (legacyEvents .testnet) log).value = .decoded log
        ⟨"commit_federation", event.hash, event.fragment,
          [.array [.bytes key, .bytes [0, 0]], .str "2Nabc", .array [], .str "é",
            .uint 2000000]⟩ := by
  intro key c log
  have hvalid : c.Valid := ⟨⟨by decide, by decide⟩, ⟨by decide, by decide⟩, by decide⟩
  have hfits : c.item.Fits := by
    change c.item.payload.length < 2 ^ 64
    decide +kernel
  exact ⟨hvalid, hfits, decodeLegacyLog_federationChange hvalid hfits rfl
    (decodeHex_encodePrefixed _) (decodeHex_encodePrefixed _)⟩

end ContractLens.Bridge
