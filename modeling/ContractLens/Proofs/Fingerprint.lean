import ContractLens.Proofs.Details
import ContractLens.Proofs.FirstOccurrences
import ContractLens.Proofs.Hash.Keccak
import ContractLens.Proofs.Inspector
import ContractLens.Proofs.LogAddresses

/-!
# Functions and interfaces found in code

A function of the interface description is found in code if the digits of its selector occur there.
The functions stand in the order of the interface description, each once, and the interfaces that
they complete in the order of the registry, behind the interface that a proxy has by being one.

* `functionSelectors_spec`: the selectors of an interface description.
* `Fingerprint.matchMethods_eq_filter`, `Fingerprint.matchMethods_eq`: the functions found in code.
* `Interface.namesOfMethods_eq`: the interfaces that functions complete.
* `Inspector.details_fingerprint`: the functions and interfaces in the details of a contract.
-/

namespace ContractLens

open Abi

/-! ## Selectors -/

/-- The canonical signatures of the named functions among the fragments, in order. -/
def Abi.functionSignatures (fragments : List Fragment) : List String :=
  (fragments.filter (·.isFunction)).filterMap (·.canonicalSignature?)

/-- The selectors of functions by their signatures, each signature at its first occurrence. -/
structure Abi.SelectorsOf (signatures : List String) (pairs : List (String × String)) : Prop where
  first : FirstOccurrences signatures (pairs.map Prod.fst)
  selector : ∀ p ∈ pairs, p.2 = methodSelector p.1

theorem Abi.SelectorsOf.insertNew {signatures : List String} {pairs : List (String × String)}
    (h : SelectorsOf signatures pairs) (method : String) :
    SelectorsOf (signatures ++ [method]) (insertNew pairs method (methodSelector method)) := by
  rw [Abi.insertNew]
  by_cases hmem : method ∈ pairs.map Prod.fst
  · have hany : pairs.any (·.1 == method) = true := by
      obtain ⟨p, hp, rfl⟩ := List.mem_map.mp hmem
      exact List.any_eq_true.mpr ⟨p, hp, beq_self_eq_true _⟩
    rw [if_pos hany]
    exact ⟨h.first.append_of_mem hmem, h.selector⟩
  · have hany : ¬ pairs.any (·.1 == method) = true := by
      intro hany
      obtain ⟨p, hp, heq⟩ := List.any_eq_true.mp hany
      exact hmem (List.mem_map.mpr ⟨p, hp, eq_of_beq heq⟩)
    rw [if_neg hany]
    refine ⟨?_, List.forall_mem_append.mpr ⟨h.selector, List.forall_mem_singleton.mpr rfl⟩⟩
    rw [List.map_append]
    exact h.first.append_of_not_mem hmem

/-- The selectors of an interface description are those of its signatures. -/
theorem Abi.functionSelectors_spec {t : SignatureTable} (ht : t.Faithful)
    (fragments : List Fragment) :
    SelectorsOf (functionSignatures fragments) (functionSelectors fragments t) := by
  -- the induction takes one fragment more at the end, as the table grows there
  induction fragments using List.reverseRecOn with
  | nil =>
    show SelectorsOf [] []
    exact ⟨.nil, fun p hp => absurd hp List.not_mem_nil⟩
  | append_singleton fragments f ih =>
    rw [functionSelectors, functionSignatures, List.filter_append, List.filterMap_append,
      List.foldl_append]
    cases hf : f.isFunction with
    | true =>
      rw [List.filter_singleton, hf, cond_true, List.foldl_cons, List.foldl_nil, ht.signature_eq]
      simp only [Signature.ofFragment, Signature.selector?]
      cases hmethod : f.canonicalSignature? with
      | none =>
        rw [List.filterMap_cons_none hmethod, List.filterMap_nil, List.append_nil]
        exact ih
      | some method =>
        rw [List.filterMap_cons_some hmethod, List.filterMap_nil]
        exact ih.insertNew method
    | false =>
      rw [List.filter_singleton, hf, cond_false, List.filterMap_nil, List.append_nil, List.foldl_nil]
      exact ih

/-! ## Code -/

theorem Keccak.length_keccak256 (message : List UInt8) : (keccak256 message).length = 32 := by
  simp [keccak256, bytesOfWord]

/-- A selector has eight digits, and they are in lower case. -/
theorem Abi.toList_methodSelector (method : String) :
    (methodSelector method).toList = (Keccak.keccak256Hex method).toList.take 8 := by
  have hmarker : Hex.stripMarker (Keccak.keccak256Hex method) = Keccak.keccak256Hex method :=
    LetterCase.stripMarker_of_asciiLower_hex (LetterCase.asciiLower_encode _)
  rw [methodSelector, selectorOfHash, hmarker, String.toList_ofList]

example : Abi.methodSelector "owner()" = "8da5cb5b" := by
  decide +kernel

theorem Abi.length_take_hash (method : String) :
    ((Keccak.keccak256Hex method).toList.take 8).length = 8 := by
  rw [Keccak.keccak256Hex, Hex.toList_encode, List.length_take, Hex.length_digits,
    Keccak.length_keccak256]
  rfl

theorem Abi.lower_methodSelector (method : String) :
    LetterCase.lower (methodSelector method) = methodSelector method := by
  have hdigits : ∀ c ∈ (methodSelector method).toList, ∃ n < 16, c = Hex.digit n := by
    rw [toList_methodSelector]
    exact fun c hc => Hex.exists_digit_of_mem_encode (List.mem_of_mem_take hc)
  apply String.toList_injective
  rw [LetterCase.lower_eq_asciiLower, LetterCase.toList_asciiLower]
  · conv_rhs => rw [← List.map_id (methodSelector method).toList]
    refine List.map_congr_left fun c hc => ?_
    obtain ⟨n, hn, rfl⟩ := hdigits c hc
    exact Hex.digit_lower hn
  · intro c hc
    obtain ⟨n, hn, rfl⟩ := hdigits c hc
    exact Hex.digit_toNat_lt hn

namespace Fingerprint

theorem occursIn_iff (part text : List Char) : occursIn part text = true ↔ part <:+: text := by
  induction text with
  | nil => rw [occursIn, List.isEmpty_iff, List.infix_nil]
  | cons c rest ih =>
    rw [occursIn, Bool.or_eq_true, List.isPrefixOf_iff_prefix, ih, List.infix_cons_iff]

theorem hasSelector_iff (code : List Char) (method : String) :
    hasSelector code (methodSelector method) = true ↔
      (Keccak.keccak256Hex method).toList.take 8 <:+: code := by
  have hne : methodSelector method ≠ "" := by
    intro h
    have hlength := length_take_hash method
    rw [← toList_methodSelector, h] at hlength
    cases hlength
  rw [hasSelector, decide_eq_true hne, Bool.true_and, occursIn_iff, lower_methodSelector,
    toList_methodSelector]

/-- In no digits nothing is found. -/
theorem hasSelector_nil (selector : String) : hasSelector [] selector = false := by
  rw [hasSelector, Bool.and_eq_false_iff, decide_eq_false_iff_not, not_not]
  by_cases h : selector = ""
  · exact Or.inl h
  · refine Or.inr ?_
    rw [occursIn, List.isEmpty_eq_false_iff]
    exact LetterCase.toList_lower_ne_nil h

/-- Code without digits needs no case of its own. -/
theorem matchMethods_eq_filter (code : String) (candidates : List (String × String)) :
    matchMethods (some code) candidates =
      (candidates.filter fun p => hasSelector (codeDigits code) p.2).map Prod.fst := by
  rw [matchMethods]
  cases hdigits : codeDigits code with
  | nil => simp [hasSelector_nil]
  | cons c digits => rfl

theorem matchMethods_eq {signatures : List String} {candidates : List (String × String)}
    (h : SelectorsOf signatures candidates) (code : String) :
    matchMethods (some code) candidates =
      (candidates.map Prod.fst).filter fun m =>
        decide ((Keccak.keccak256Hex m).toList.take 8 <:+: codeDigits code) := by
  rw [matchMethods_eq_filter, List.filter_map]
  refine congrArg (List.map Prod.fst) (List.filter_congr fun p hp => ?_)
  rw [h.selector p hp, Bool.eq_iff_iff, hasSelector_iff, Function.comp_apply, decide_eq_true_iff]

end Fingerprint

/-! ## Interfaces -/

namespace Abi.Interface

theorem publicName_eq (name : String) : publicName name = name := by
  rw [publicName]
  cases hlookup : publicNames.lookup name with
  | none => rfl
  | some value =>
    obtain ⟨before, after, hentries, -⟩ := List.lookup_eq_some_iff.mp hlookup
    have hmem : (name, value) ∈ publicNames := by simp [hentries]
    have hsame : ∀ entry ∈ publicNames, entry.2 = entry.1 := by decide
    exact hsame _ hmem

/-- The known interfaces with all their functions among these ones, by their public names. -/
def completedNames (methods : List String) : List String :=
  (registry.filter fun i => ∀ m ∈ i.methods, m ∈ methods).map fun i => publicName i.name

theorem namesOfMethods_eq (methods : List String) :
    namesOfMethods methods = completedNames methods := by
  rw [namesOfMethods, flaggedNames, implementedBy, List.filter_map, List.map_map, completedNames]
  refine congrArg _ (List.filter_congr fun i _ => ?_)
  rw [Bool.eq_iff_iff, decide_eq_true_iff, Function.comp_apply, isImplementedBy, List.all_eq_true]
  simp only [List.contains_iff_mem]

theorem nodup_completedNames (methods : List String) : (completedNames methods).Nodup := by
  have hnames : (registry.map Interface.name).Nodup := by decide
  simp only [completedNames, publicName_eq]
  exact hnames.sublist (List.filter_sublist.map _)

end Abi.Interface

/-! ## Details -/

namespace ContractDetails

/-- The interfaces that a proxy of a pattern has by being one. A contract that is no proxy has
    none. -/
def markers : Option ProxyType → List String
  | some .uups => ["ERC1822"]
  | some .erc1967 | some .erc1967Beacon => ["ERC1967"]
  | some .unstructuredStorage | none => []

/-- They stand in front and are not repeated. -/
theorem withMarker_eq (type : Option ProxyType) (names : List String) :
    withMarker (type.bind ProxyType.marker?) names =
      markers type ++ names.filter (· ∉ markers type) := by
  cases type with
  | none => simp [withMarker, markers]
  | some type => cases type <;> simp [withMarker, markers, ProxyType.marker?]

/-- A contract has the interfaces that its functions complete, behind the marker of its pattern. -/
theorem ofResolution_spec (r : ProxyResolution) {methods : List String} {d : ContractDetails}
    (h : d = ofResolution r ⟨methods, Interface.namesOfMethods methods⟩) :
    d.methods = methods ∧ d.interfaces = markers d.proxyType ++
      (Interface.completedNames d.methods).filter (· ∉ markers d.proxyType) := by
  subst h
  refine ⟨rfl, ?_⟩
  rw [← Interface.namesOfMethods_eq, ← withMarker_eq]
  rfl

theorem nodup_markers_append (type : Option ProxyType) {names : List String} (h : names.Nodup) :
    (markers type ++ names.filter (· ∉ markers type)).Nodup := by
  have hmarkers : (markers type).Nodup := by
    cases type with
    | none => exact .nil
    | some type => cases type <;> decide
  rw [List.nodup_append]
  refine ⟨hmarkers, h.filter _, fun m hm name hname heq => ?_⟩
  have hnot := (List.mem_filter.mp hname).2
  rw [decide_eq_true_iff, ← heq] at hnot
  exact hnot hm

end ContractDetails

namespace Inspector

open ProxyResolution (slotIsSet)

variable {c : Config} {i : Inspector} {fragments : List Fragment}

/-- Events apart, an inspector keeps the interface description, so that its selectors are those of
    the description. -/
theorem MadeFrom.selectors (h : MadeFrom c i fragments) :
    SelectorsOf (functionSignatures fragments) i.selectors := by
  have hsame : functionSignatures i.abi = functionSignatures fragments := by
    rw [functionSignatures, functionSignatures, h.abi_eq, filter_function_dedupeEvents]
  have hspec := functionSelectors_spec h.signatures_faithful i.abi
  rwa [hsame] at hspec

/-- The functions that are found in code. -/
theorem MadeFrom.methodsInCode_spec (h : MadeFrom c i fragments) (code : String) :
    (i.methodsInCode (some code)).Pairwise (fun a b =>
      (functionSignatures fragments).idxOf a < (functionSignatures fragments).idxOf b) ∧
    ∀ m, m ∈ i.methodsInCode (some code) ↔ m ∈ functionSignatures fragments ∧
      (Keccak.keccak256Hex m).toList.take 8 <:+:
        (LetterCase.lower (Hex.stripMarker code)).toList := by
  have hselectors := h.selectors
  rw [methodsInCode, Fingerprint.matchMethods_eq hselectors]
  refine ⟨hselectors.first.order.filter _, fun m => ?_⟩
  rw [List.mem_filter, hselectors.first.mem_iff, decide_eq_true_iff, Fingerprint.codeDigits]

/-- The findings in the code that an inspection fetched. -/
theorem Inspects.exists_code {node : Node} {address : String} {block : BlockTag}
    {calls : List NodeCall} {d : ContractDetails}
    (h : Inspects i node address block calls (.ok d)) :
    ∃ code, node.code (d.implementation.getD address) block = .ok code ∧
      d.methods = i.methodsInCode (some code) ∧
      d.interfaces = ContractDetails.markers d.proxyType ++
        (Interface.completedNames d.methods).filter
          (· ∉ ContractDetails.markers d.proxyType) := by
  generalize hresult : Except.ok d = result at h
  cases h with
  | unresolved | noCode => cases hresult
  | @inspected before r code hresolves hcode =>
    have hd : d = .ofResolution r (i.findings code) := Except.ok.inj hresult
    refine ⟨code, ?_, ContractDetails.ofResolution_spec r hd⟩
    rw [hd]
    exact hcode

/-- The details of a contract that is not built in, for all replies of a node: the functions are
    those of the interface description whose selectors occur in the code that was fetched, each once
    and in the order in which they occur first in the description, and the interfaces are those of
    the proxy's pattern and then those that the functions complete, in the order of the registry,
    none of them twice. -/
theorem details_fingerprint (h : MadeFrom c i fragments) {address : String}
    (hnative : ¬ c.natives.Names address) {node : Node} {block : BlockTag} {calls : List NodeCall}
    {d : ContractDetails} (hruns : (i.details address block).Runs node calls (.ok d)) :
    ∃ code, AsksCodeLast calls (d.implementation.getD address) block ∧
      node.code (d.implementation.getD address) block = .ok code ∧
      d.methods.Nodup ∧
      d.methods.Pairwise (fun a b =>
        (functionSignatures fragments).idxOf a < (functionSignatures fragments).idxOf b) ∧
      (∀ m, m ∈ d.methods ↔ m ∈ functionSignatures fragments ∧
        (Keccak.keccak256Hex m).toList.take 8 <:+:
          (LetterCase.lower (Hex.stripMarker code)).toList) ∧
      d.interfaces = ContractDetails.markers d.proxyType ++
        (Interface.completedNames d.methods).filter
          (· ∉ ContractDetails.markers d.proxyType) ∧
      d.interfaces.Nodup := by
  have hplain : i.natives.isNative address = false :=
    Bool.eq_false_iff.mpr (mt h.isNative_iff.mp hnative)
  obtain ⟨asked, result, hasked, hinspects⟩ := inspects_details hplain node block
  obtain rfl : asked = calls := hasked.1.symm.trans hruns.1
  obtain rfl : result = .ok d := hasked.2.symm.trans hruns.2
  obtain ⟨code, hcode, hmethods, hinterfaces⟩ := hinspects.exists_code
  obtain ⟨horder, hmem⟩ := h.methodsInCode_spec code
  rw [← hmethods] at horder hmem
  refine ⟨code, hinspects.asksCodeLast, hcode, nodup_of_idxOf_lt horder, horder, hmem,
    hinterfaces, ?_⟩
  rw [hinterfaces]
  exact ContractDetails.nodup_markers_append _ (Interface.nodup_completedNames _)

/-- An interface description with a function that is there twice and one that code may lack. -/
def repeatedAbi : List Fragment := [
  .ofFunction "supportsInterface" [.plain "interfaceId" "bytes4"] [.plain "" "bool"],
  .ofFunction "proxiableUUID" [] [.plain "" "bytes32"],
  .ofFunction "supportsInterface" [.plain "id" "bytes4"] [.plain "" "bool"],
  .ofFunction "owner" [] [.plain "" "address"]]

/-- A configuration with this interface description. -/
def repeatedConfig : Config := { Config.ofNetwork .mainnet with abi := some repeatedAbi }

/-- A node with one implementation behind all addresses, whose code has two selectors. -/
def uupsNode : Node where
  code _ _ := .ok "0x60803560E01C6301FFC9A714602A576352d1902d"
  storage _ _ _ := .ok "0x000000000000000000000000beefbeefbeefbeefbeefbeefbeefbeefbeefbeef"
  call _ _ _ := .ok "0x"
  blockNumber := .ok 10
  block _ _ := .ok none
  receipt _ := .ok none
  trace _ := .ok []

theorem find?_slotIsSet_uupsNode :
    ProxyType.inOrder.find? (slotIsSet uupsNode plainAddress .latest) = some .uups := by
  decide +kernel

/-- Two of the functions are found, and the marker stands in front of what they complete. -/
theorem details_uupsProxy :
    ∃ (i : Inspector) (calls : List NodeCall) (d : ContractDetails),
      i.MadeFrom repeatedConfig repeatedAbi ∧
      (i.details plainAddress .latest).Runs uupsNode calls (.ok d) ∧
      d.methods = ["supportsInterface(bytes4)", "proxiableUUID()"] ∧
      d.interfaces = ["ERC1822", "ERC165"] := by
  obtain ⟨i, hi, -⟩ := exists_ofConfig (c := repeatedConfig) rfl rfl (by decide +kernel)
  have hmade : i.MadeFrom repeatedConfig repeatedAbi := .ofConfig hi
  have hplain : ¬ repeatedConfig.natives.Names plainAddress := by decide +kernel
  obtain ⟨calls, result, hruns, -, -, hcalls, hresult⟩ :=
    details_spec (Bool.eq_false_iff.mpr (mt hmade.isNative_iff.mp hplain)) uupsNode .latest
  cases result with
  | error e =>
    obtain ⟨before, last, rfl, -, hlast⟩ := hresult
    cases hlast with
    | code h => cases h
    | storage h => cases h
    | beacon h =>
      have hbeacon := hcalls _ _ _ (List.mem_append_right before (List.mem_singleton_self _))
      rw [find?_slotIsSet_uupsNode] at hbeacon
      cases hbeacon
  | ok d =>
    obtain ⟨-, hagrees, -⟩ := hresult
    have htype : d.proxyType = some .uups := hagrees.proxyType_eq.trans find?_slotIsSet_uupsNode
    obtain ⟨code, -, hcode, -, horder, hmem, hinterfaces, -⟩ :=
      details_fingerprint hmade hplain hruns
    obtain rfl := Except.ok.inj hcode
    have hfound : ∀ m ∈ functionSignatures repeatedAbi,
        (Keccak.keccak256Hex m).toList.take 8 <:+: (LetterCase.lower (Hex.stripMarker
          "0x60803560E01C6301FFC9A714602A576352d1902d")).toList ↔
          m ∈ ["supportsInterface(bytes4)", "proxiableUUID()"] := by
      simp only [Keccak.keccak256Hex_eq]
      decide +kernel
    have hmethods : d.methods = ["supportsInterface(bytes4)", "proxiableUUID()"] := by
      refine eq_of_idxOf_lt horder (by decide +kernel) fun m => ?_
      have hlisted : ∀ m ∈ ["supportsInterface(bytes4)", "proxiableUUID()"],
          m ∈ functionSignatures repeatedAbi := by
        decide +kernel
      rw [hmem]
      exact ⟨fun h => (hfound m h.1).mp h.2, fun h => ⟨hlisted m h, (hfound m (hlisted m h)).mpr h⟩⟩
    refine ⟨i, calls, d, hmade, hruns, hmethods, ?_⟩
    rw [hinterfaces, hmethods, htype]
    decide

end Inspector

end ContractLens
