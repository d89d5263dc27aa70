import ContractLens.Proofs.Details
import ContractLens.Proofs.ProxyAddresses

/-!
# Storage words are never cut inside a character

An address is cut out of a storage word at a byte position, which may lie inside a character. The
cut is only made in words that are not zero, and all their characters take one byte. So whatever a
node replies, no resolution and no inspection ends at such a cut.

* `Query.Safe`: an activity does not end at a cut inside a character.
* `NonzeroWord.not_cutsCharacter`: the words that are cut are safe.
* `runs_lookAt_of_not_nonzeroWord`: all others are not cut.
* `inspection_safe`: resolutions and inspections are safe.
-/

namespace ContractLens

/-- An activity does not end at a cut that goes through a character of a storage word. -/
def Query.Safe {α : Type} (q : Query InspectError α) (node : Node) : Prop :=
  ∀ word, (q.run node).result ≠ .error (.brokenWord word)

/-- No cut goes through a character of a word that is not zero. -/
theorem NonzeroWord.not_cutsCharacter {word : String} (h : NonzeroWord word) :
    ¬CutsCharacter word := by
  intro hcuts
  obtain ⟨address, haddress⟩ := exists_slotAddress? h
  rw [slotAddress?_eq_none_iff.mpr hcuts] at haddress
  cases haddress

namespace ProxyResolution

variable {node : Node} {address : String} {block : BlockTag}

/-- A cut alone is safe exactly where it does not go through a character. -/
theorem safe_wordAddress_iff {word : String} :
    (wordAddress word).Safe node ↔ ¬CutsCharacter word := by
  rw [← slotAddress?_eq_none_iff, Query.Safe, wordAddress]
  cases slotAddress? word with
  | none =>
    refine iff_of_false ?_ (not_not.mpr rfl)
    intro hsafe
    exact hsafe word rfl
  | some address =>
    refine iff_of_true ?_ (Option.some_ne_none address)
    intro word' hword'
    cases hword'

/-- The look at the slot of a pattern. -/
def lookAt (address : String) (block : BlockTag) (t : ProxyType) :
    Query InspectError ProxyResolution :=
  if t = .erc1967Beacon then byBeacon address block else bySlot address t block

theorem resolved_lookAt (node : Node) (address : String) (block : BlockTag) (t : ProxyType) :
    Resolved node address block (lookAt address block t) [t] := by
  unfold lookAt
  split_ifs with ht
  · exact ht ▸ resolved_byBeacon
  · exact resolved_bySlot ht

/-- A word that counts as zero is not cut, and nothing more is asked. -/
theorem runs_lookAt_of_not_nonzeroWord {t : ProxyType} {word : String}
    (hstorage : node.storage address t.slot block = .ok word) (hword : ¬NonzeroWord word) :
    (lookAt address block t).Runs node [.storage address t.slot block]
      (.ok (notProxy address)) := by
  have hother {word' : String} (h : node.storage address t.slot block = .ok word') :
      ¬NonzeroWord word' := by
    rw [hstorage] at h
    exact Except.ok.inj h ▸ hword
  obtain ⟨calls, result, hruns, hresolves⟩ := resolved_lookAt node address block t
  cases hresolves with
  | unreadable h =>
    rw [hstorage] at h
    cases h
  | zero _ _ hrest =>
    cases hrest
    exact hruns
  | direct _ h hnonzero | beacon h hnonzero | deadBeacon h hnonzero =>
    exact absurd hnonzero (hother h)

/-- A failing reply is no cut. -/
theorem LastFails.ne_brokenWord {calls : List NodeCall} {e : InspectError}
    (h : LastFails node calls e) (word : String) : e ≠ .brokenWord word := by
  rintro rfl
  obtain ⟨_, _, -, -, hlast⟩ := h
  cases hlast

/-- A resolution ends with a result or at a failing reply. -/
theorem Resolved.safe {q : Query InspectError ProxyResolution} {types : List ProxyType}
    (h : Resolved node address block q types) : q.Safe node := by
  obtain ⟨calls, hresolves⟩ := h.resolves
  intro word hword
  rw [hword] at hresolves
  exact hresolves.lastFails.ne_brokenWord word rfl

end ProxyResolution

namespace Inspector

open ProxyResolution (checks lookAt notProxy wordAddress)

/-- An inspection ends with details, at a failing reply or, for an address that is built in, with
    what is wrong with the configuration. -/
theorem safe_details (i : Inspector) (node : Node) (address : String) (block : BlockTag) :
    (i.details address block).Safe node := by
  intro word hword
  cases hnative : i.natives.isNative address with
  | true =>
    unfold details at hword
    rw [if_pos hnative] at hword
    cases hmethods : i.natives.methods address (i.network.getD .mainnet) with
    | error e =>
      rw [hmethods] at hword
      cases hword
    | ok methods =>
      rw [hmethods] at hword
      cases hword
  | false =>
    obtain ⟨calls, result, ⟨-, hresult⟩, hinspects⟩ := inspects_details hnative node block
    rw [hresult] at hword
    subst hword
    exact hinspects.lastFails.ne_brokenWord word rfl

/-- Whatever a node replies, no resolution and no inspection ends at a cut through a character. Such
    a cut ends an activity, but of the words in the slots only those that are not zero are cut, and
    these have no such cut. With any other word the look at its slot is over. -/
theorem inspection_safe (i : Inspector) (node : Node) (address : String) (block : BlockTag) :
    (∀ q ∈ checks address block, q.Safe node) ∧ (i.details address block).Safe node ∧
      (∀ word, (wordAddress word).Safe node ↔ ¬CutsCharacter word) ∧
      ∀ t word, node.storage address t.slot block = .ok word →
        (NonzeroWord word → ¬CutsCharacter word) ∧
        (¬NonzeroWord word → (lookAt address block t).Runs node [.storage address t.slot block]
          (.ok (notProxy address))) := by
  refine ⟨?_, safe_details i node address block,
    fun word => ProxyResolution.safe_wordAddress_iff, ?_⟩
  · intro q hq
    obtain ⟨types, hresolved⟩ := ProxyResolution.resolved_of_mem_checks node hq
    exact hresolved.safe
  · intro t word hstorage
    exact ⟨NonzeroWord.not_cutsCharacter,
      ProxyResolution.runs_lookAt_of_not_nonzeroWord hstorage⟩

/-- The last forty bytes of this word start inside a letter. It counts as zero, so that it is not
    cut, and with it the address is no proxy. -/
theorem inspection_safe_accents :
    let address := "0x1c2b7a9a8c8c7eeb6d17b8e5b3b5cc0e1c52b1a2"
    let node := ProxyResolution.firstSlotNode "0xééééééééééééééééééééé0"
    CutsCharacter "0xééééééééééééééééééééé0" ∧
      (lookAt address .latest .uups).Runs node [.storage address ProxyType.uups.slot .latest]
        (.ok (notProxy address)) ∧
      (ProxyResolution.resolve address .latest).Safe node ∧
      (bare.details address .latest).Safe node ∧
      NonzeroWord "0xBEef" ∧ ¬CutsCharacter "0xBEef" := by
  intro address node
  have hcuts : CutsCharacter "0xééééééééééééééééééééé0" := by
    rw [← slotAddress?_eq_none_iff]
    decide +kernel
  obtain ⟨hchecks, hdetails, -, hslots⟩ := inspection_safe bare node address .latest
  obtain ⟨hnonzero, hzero⟩ := hslots .uups "0xééééééééééééééééééééé0" rfl
  obtain ⟨-, -, -, hslots'⟩ := inspection_safe bare
    (ProxyResolution.firstSlotNode "0xBEef") address .latest
  have hbeef : NonzeroWord "0xBEef" := by decide +kernel
  exact ⟨hcuts, hzero fun h => hnonzero h hcuts, hchecks _ List.mem_cons_self, hdetails, hbeef,
    (hslots' .uups "0xBEef" rfl).1 hbeef⟩

end Inspector

end ContractLens
