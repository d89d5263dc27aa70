import ContractLens.Proofs.Fingerprint

/-!
# Functions by their canonical signatures

An inspector gives the named functions of its interface description by their canonical signatures:
once with all that their names and inputs determine, where the last of several functions with one
canonical signature counts, and once with their selectors, where the first one does. The canonical
signature of a function already determines its signature, so both come to the same.

* `Abi.Signature.ofFragment_eq_ofMethod`: the signature of a function.
* `Abi.Agree.insert`: one function more.
* `Inspector.agree_methods_selectors`: the functions of an inspector.
* `Inspector.methods_selectors_spec`: their order, their keys and what stands at each key.
-/

namespace ContractLens

open Abi

/-! ## Signatures of functions -/

/-- The signature of the functions with a canonical signature, whatever they return. -/
def Abi.Signature.ofMethod (method : String) : Signature where
  method := some method
  hash := some (Keccak.keccak256Hex method)
  indexed := []
  layoutHash := none

theorem Abi.Signature.ofFragment_eq_ofMethod {f : Fragment} {method : String}
    (hfunction : f.isFunction = true) (h : f.canonicalSignature? = some method) :
    ofFragment f = ofMethod method := by
  have hkind : f.kind = .function := eq_of_beq hfunction
  have hevent : f.isEvent = false := by
    rw [Fragment.isEvent, hkind]
    rfl
  rw [ofFragment, hevent, h]
  rfl

/-! ## Signatures and selectors -/

/-- A value that its key has already changes nothing. -/
theorem Inspector.insertLast_eq_self {α : Type} {pairs : List (String × α)} {key : String}
    {value : α} (hany : (pairs.any fun p => p.1 == key) = true)
    (h : ∀ p ∈ pairs, p.1 = key → p.2 = value) : insertLast pairs key value = pairs := by
  rw [insertLast, if_pos hany]
  conv_rhs => rw [← List.map_id pairs]
  refine List.map_congr_left fun p hp => ?_
  show (if p.1 = key then (p.1, value) else (p.1, p.2)) = p
  split_ifs with hkey
  · rw [← h p hp hkey]
  · rfl

/-- Signatures and selectors of the same functions in the same order. -/
structure Abi.Agree (signatures : List (String × Signature)) (selectors : List (String × String)) :
    Prop where
  selectors_eq : selectors = signatures.map fun p => (p.1, methodSelector p.1)
  signature : ∀ p ∈ signatures, p.2 = Signature.ofMethod p.1

namespace Abi.Agree

variable {signatures : List (String × Signature)} {selectors : List (String × String)}

/-- They agree behind one more function. If its canonical signature is there already, then its
    signature takes the place of the same one, and the selector stays. -/
theorem insert (h : Agree signatures selectors) (method : String) :
    Agree (Inspector.insertLast signatures method (.ofMethod method))
      (insertNew selectors method (methodSelector method)) := by
  have hsame : (selectors.any fun p => p.1 == method) =
      signatures.any fun p => p.1 == method := by
    rw [h.selectors_eq, List.any_map]
    rfl
  by_cases hany : (signatures.any fun p => p.1 == method) = true
  · rw [Inspector.insertLast_eq_self hany fun p hp hkey => hkey ▸ h.signature p hp, insertNew,
      hsame, if_pos hany]
    exact h
  · rw [Inspector.insertLast, if_neg hany, insertNew, hsame, if_neg hany]
    refine ⟨by rw [h.selectors_eq, List.map_append, List.map_singleton], fun p hp => ?_⟩
    rcases List.mem_append.mp hp with hp | hp
    · exact h.signature p hp
    · rw [List.mem_singleton.mp hp]

/-- What stands at a canonical signature. -/
theorem lookup (h : Agree signatures selectors) {method : String}
    (hmem : method ∈ signatures.map Prod.fst) :
    signatures.lookup method = some (.ofMethod method) ∧
    selectors.lookup method = some (methodSelector method) := by
  have hsignatures : signatures = (signatures.map Prod.fst).map fun m =>
      (m, Signature.ofMethod m) := by
    conv_lhs => rw [← List.map_id signatures]
    rw [List.map_map]
    exact List.map_congr_left fun p hp => Prod.ext rfl (h.signature p hp)
  have hselectors : selectors = (signatures.map Prod.fst).map fun m =>
      (m, methodSelector m) := by
    rw [h.selectors_eq, List.map_map]
    rfl
  constructor
  · rw [hsignatures, List.lookup_graph _ hmem]
  · rw [hselectors, List.lookup_graph _ hmem]

end Abi.Agree

/-! ## Inspectors -/

namespace Inspector

variable {c : Config} {i : Inspector} {fragments : List Fragment}

/-- The functions of an inspector. -/
theorem agree_methods_selectors (h : MadeFrom c i fragments) : Agree i.methods i.selectors := by
  rw [methods, selectors, functionSelectors]
  -- both tables take the functions one by one, in the same order
  apply List.foldl_rel
  · exact ⟨rfl, fun p hp => absurd hp List.not_mem_nil⟩
  · intro f hf signatures selectors hagree
    have hfunction : f.isFunction = true := (List.mem_filter.mp hf).2
    simp only [h.signatures_faithful.signature_eq]
    cases hmethod : f.canonicalSignature? with
    | none =>
      simp only [Signature.ofFragment, hmethod]
      exact hagree
    | some method =>
      rw [Signature.ofFragment_eq_ofMethod hfunction hmethod]
      exact hagree.insert method

/-- For every inspector, both ways to give its functions have the same keys in the same order: the
    canonical signatures of the functions with a name in the interface description that the
    inspector was given, each once and in the order in which they occur first. At each key the first
    one has the signature of every function with this canonical signature, and the second one its
    selector, the first eight digits of the hash of the key. -/
theorem methods_selectors_spec (h : MadeFrom c i fragments) :
    i.methods.map Prod.fst = i.selectors.map Prod.fst ∧
    (i.methods.map Prod.fst).Nodup ∧
    FirstOccurrences (functionSignatures fragments) (i.methods.map Prod.fst) ∧
    ∀ method ∈ functionSignatures fragments, ∃ signature selector,
      i.methods.lookup method = some signature ∧
      i.selectors.lookup method = some selector ∧
      signature.selector? = some selector ∧
      selector.toList = (Keccak.keccak256Hex method).toList.take 8 ∧
      ∀ f ∈ fragments, f.isFunction = true → f.canonicalSignature? = some method →
        signature = Signature.ofFragment f := by
  have hagree := agree_methods_selectors h
  have hkeys : i.methods.map Prod.fst = i.selectors.map Prod.fst := by
    rw [hagree.selectors_eq, List.map_map]
    rfl
  have hfirst : FirstOccurrences (functionSignatures fragments) (i.methods.map Prod.fst) := by
    rw [hkeys]
    exact h.selectors.first
  refine ⟨hkeys, nodup_of_idxOf_lt hfirst.order, hfirst, fun method hmethod => ?_⟩
  obtain ⟨hsignature, hselector⟩ := hagree.lookup ((hfirst.mem_iff method).mpr hmethod)
  refine ⟨_, _, hsignature, hselector, rfl, toList_methodSelector method, fun f hf hfunction hf' => ?_⟩
  exact (Signature.ofFragment_eq_ofMethod hfunction hf').symm

/-- An interface description with two functions of one canonical signature, which return different
    things, with another function of their name between them, and with a function that has no
    name. -/
def variantsAbi : List Fragment := [
  .ofFunction "get" [] [.plain "" "uint256"],
  { Fragment.ofFunction "get" [] [] with givenName := none },
  .ofFunction "get" [.plain "id" "uint256"] [.plain "" "uint256"],
  .ofFunction "get" [] [.plain "" "address"]]

/-- A configuration with this interface description. -/
def variantsConfig : Config := { Config.ofNetwork .mainnet with abi := some variantsAbi }

/-- Two functions are given, and both that share a canonical signature have what stands there. -/
theorem methods_selectors_variants :
    ∃ i : Inspector, i.MadeFrom variantsConfig variantsAbi ∧
      i.methods.map Prod.fst = ["get()", "get(uint256)"] ∧
      i.selectors.map Prod.fst = ["get()", "get(uint256)"] ∧
      i.methods.lookup "get()" = some (.ofFragment variantsAbi[0]) ∧
      i.methods.lookup "get()" = some (.ofFragment variantsAbi[3]) ∧
      i.selectors.lookup "get()" = some "6d4ce63c" := by
  obtain ⟨i, hi, -⟩ := exists_ofConfig (c := variantsConfig) rfl rfl (by decide +kernel)
  have hmade : i.MadeFrom variantsConfig variantsAbi := .ofConfig hi
  obtain ⟨hkeys, -, hfirst, hvalues⟩ := methods_selectors_spec hmade
  have hlisted : i.methods.map Prod.fst = ["get()", "get(uint256)"] := by
    refine eq_of_idxOf_lt hfirst.order (by decide +kernel) fun m => (hfirst.mem_iff m).trans ?_
    have hsignatures : functionSignatures variantsAbi = ["get()", "get(uint256)", "get()"] := by
      decide +kernel
    rw [hsignatures]
    simp only [List.mem_cons, List.not_mem_nil, or_false]
    tauto
  obtain ⟨signature, selector, hsignature, hselector, -, hdigits, hsame⟩ :=
    hvalues "get()" (by decide +kernel)
  have hbefore : variantsAbi[0] ∈ variantsAbi := List.getElem_mem _
  have hbehind : variantsAbi[3] ∈ variantsAbi := List.getElem_mem _
  have hselected : selector = "6d4ce63c" := by
    apply String.toList_injective
    rw [hdigits, Keccak.keccak256Hex_eq]
    decide +kernel
  refine ⟨i, hmade, hlisted, hkeys.symm.trans hlisted, ?_, ?_, hselected ▸ hselector⟩
  · rw [hsignature, hsame _ hbefore rfl (by decide +kernel)]
  · rw [hsignature, hsame _ hbehind rfl (by decide +kernel)]

end Inspector

end ContractLens
