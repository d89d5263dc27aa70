import ContractLens.Proofs.Fingerprint
import ContractLens.Proofs.Text.HexReading

/-!
# Functions of a contract and their calls

A method text with a parenthesis is a canonical signature, any other one a name; either finds the
first function in the interface description that goes by it. A canonical signature has a parenthesis
itself, so that no function with a name is out of reach, whatever other functions share the name.

* `Contract.exists_function`: what finds a function, and which.
* `decodeHex_methodSelector`: a selector stands for the first four bytes of a hash.
* `Contract.exists_of_encodeCall`: the data of a call.
* `Contract.Serves`: a contract finds and calls the functions of an interface description.
* `Contract.overloads_reachable`: every contract does, and one that an inspector makes does so for
  the interface description that the inspector was given.
-/

namespace ContractLens

open Abi

namespace Contract

variable {c : Contract} {fragments : List Fragment} {method : String} {f : Fragment}

/-! ## Finding functions -/

/-- A text with a parenthesis is matched with canonical signatures. -/
theorem answersTo_of_paren (h : '(' ∈ method.toList) :
    answersTo method f = true ↔ f.canonicalSignature? = some method := by
  rw [answersTo, if_pos (List.contains_iff_mem.mpr h), beq_iff_eq]

/-- Any other text is matched with names. -/
theorem answersTo_of_not_paren (h : '(' ∉ method.toList) :
    answersTo method f = true ↔ f.name? = some method := by
  rw [answersTo, if_neg (mt List.contains_iff_mem.mp h), beq_iff_eq]

theorem paren_mem_signatureText (name : String) (inputs : List Param) :
    '(' ∈ (signatureText name inputs).toList := by
  simp [signatureText, typeList, String.toList_append]

/-- Where a function answers to a text, the first one that does is found. -/
theorem exists_function (hfunctions : c.abi.filter (·.isFunction) = fragments.filter (·.isFunction))
    (hf : f ∈ fragments) (hfunction : f.isFunction = true) (hanswers : answersTo method f = true) :
    ∃ g, c.function method = .ok g ∧
      IsFirst (fun h => h.isFunction = true ∧ answersTo method h = true) fragments g := by
  rw [function, hfunctions]
  cases hfind : (fragments.filter (·.isFunction)).find? (answersTo method) with
  | none =>
    have hnone := List.find?_eq_none.mp hfind f (List.mem_filter.mpr ⟨hf, hfunction⟩)
    exact absurd hanswers hnone
  | some g => exact ⟨g, rfl, (find?_eq_some_iff_isFirst.mp hfind).of_filter⟩

/-! ## Data of calls -/

/-- A selector stands for the first four bytes of the hash of its signature. -/
theorem decodeHex_methodSelector (signature : String) :
    decodeHex (methodSelector signature) =
      .ok ((Keccak.keccak256 (utf8Bytes signature)).take 4) := by
  have htext : methodSelector signature =
      Hex.encode ((Keccak.keccak256 (utf8Bytes signature)).take 4) := by
    apply String.toList_injective
    rw [toList_methodSelector, Keccak.keccak256Hex, Hex.toList_encode, Hex.toList_encode,
      ← Hex.take_digits]
  rw [htext]
  exact (decodeHex_of_asciiLower_hex (LetterCase.asciiLower_encode _)).1

/-- The data of a call are the first four bytes of a hash, that of the canonical signature of the
    function that is found, and the encoding of the parameters as its inputs. -/
theorem exists_of_encodeCall {params : List String} {data : List UInt8}
    (h : c.encodeCall method params = .ok data) :
    ∃ f signature values, c.function method = .ok f ∧ f.canonicalSignature? = some signature ∧
      paramData f.inputs params = .ok values ∧
      data = (Keccak.keccak256 (utf8Bytes signature)).take 4 ++ Datum.encodeParams values := by
  obtain ⟨f, hf, h⟩ := bind_eq_ok_iff.mp h
  split_ifs at h with hlength
  · cases h
  obtain ⟨values, hvalues, h⟩ := bind_eq_ok_iff.mp h
  split at h
  · cases h
  next signature hsignature =>
  rw [decodeHex_methodSelector, ok_bind] at h
  exact ⟨f, signature, values, hf, hsignature, hvalues, (Except.ok.inj h).symm⟩

/-! ## Contracts -/

/-- A contract finds and calls the functions of an interface description: each named function by its
    canonical signature, the first one with a name by this name, and with its own selector. -/
structure Serves (c : Contract) (fragments : List Fragment) : Prop where
  bySignature : ∀ f ∈ fragments, f.isFunction = true → f.name?.isSome = true →
    ∃ signature g, f.canonicalSignature? = some signature ∧ c.function signature = .ok g ∧
      IsFirst (fun h => h.isFunction = true ∧ h.canonicalSignature? = some signature) fragments g
  byName : ∀ name, '(' ∉ name.toList →
    ∀ f ∈ fragments, f.isFunction = true → f.name? = some name →
      ∃ g, c.function name = .ok g ∧
        IsFirst (fun h => h.isFunction = true ∧ h.name? = some name) fragments g
  calls : ∀ method params data, c.encodeCall method params = .ok data →
    ∃ f signature values, c.function method = .ok f ∧ f.canonicalSignature? = some signature ∧
      paramData f.inputs params = .ok values ∧
      data = (Keccak.keccak256 (utf8Bytes signature)).take 4 ++ Datum.encodeParams values

/-- It does so if it has the same functions in the same order. -/
theorem serves_of_functions_eq
    (hfunctions : c.abi.filter (·.isFunction) = fragments.filter (·.isFunction)) :
    c.Serves fragments := by
  refine ⟨fun f hf hfunction hnamed => ?_, fun name hparen f hf hfunction hname => ?_,
    fun method params data => exists_of_encodeCall⟩
  · obtain ⟨name, hname⟩ := Option.isSome_iff_exists.mp hnamed
    have hsignature := canonicalSignature?_of_name hname
    have hparen := paren_mem_signatureText name f.inputs
    obtain ⟨g, hg, hfirst⟩ := exists_function hfunctions hf hfunction
      ((answersTo_of_paren hparen).mpr hsignature)
    exact ⟨_, g, hsignature, hg, hfirst.congr fun h =>
      and_congr_right fun _ => answersTo_of_paren hparen⟩
  · obtain ⟨g, hg, hfirst⟩ := exists_function hfunctions hf hfunction
      ((answersTo_of_not_paren hparen).mpr hname)
    exact ⟨g, hg, hfirst.congr fun h => and_congr_right fun _ => answersTo_of_not_paren hparen⟩

/-- Every contract finds each of its named functions by the canonical signature and the first one of
    each name by this name, and calls what it finds with the first four bytes of the hash of that
    function's own signature. A contract that an inspector makes does so for the interface
    description that the inspector was given last, in its order. -/
theorem overloads_reachable :
    (∀ c : Contract, c.Serves c.abi) ∧
    ∀ {config : Config} {i : Inspector} {fragments : List Fragment},
      i.MadeFrom config fragments → ∀ address, (i.contract address).Serves fragments := by
  refine ⟨fun c => serves_of_functions_eq rfl, fun {config i fragments} hmade address => ?_⟩
  refine serves_of_functions_eq ?_
  rw [Inspector.contract, hmade.abi_eq, filter_function_dedupeEvents]

/-- An interface description with two functions of one name, and an event before them. -/
def mintAbi : List Fragment := [
  .ofEvent "Mint" [.ofEvent "to" "address" true, .ofEvent "amount" "uint256" false],
  .ofFunction "mint" [.plain "to" "address"] [],
  .ofFunction "mint" [.plain "to" "address", .plain "amount" "uint256"] []]

/-- A configuration with this interface description. -/
def mintConfig : Config := { Config.ofNetwork .mainnet with abi := some mintAbi }

/-- The parameters of a call of the longer one. -/
def mintParams : List String := [plainAddress, "7"]

/-- Both functions are found, and a call of the longer one starts with its own selector. -/
theorem overloads_reachable_mint :
    ∃ (i : Inspector) (longer shorter : Fragment) (data : List UInt8),
      i.MadeFrom mintConfig mintAbi ∧
      (i.contract plainAddress).function "mint(address,uint256)" = .ok longer ∧
      longer.canonicalSignature? = some "mint(address,uint256)" ∧
      (i.contract plainAddress).function "mint" = .ok shorter ∧
      IsFirst (fun f => f.isFunction = true ∧ f.name? = some "mint") mintAbi shorter ∧
      (i.contract plainAddress).encodeCall "mint(address,uint256)" mintParams = .ok data ∧
      data.take 4 = [0x40, 0xc1, 0x0f, 0x19] := by
  obtain ⟨i, hi, -⟩ := Inspector.exists_ofConfig (c := mintConfig) rfl rfl (by decide +kernel)
  have hmade : i.MadeFrom mintConfig mintAbi := .ofConfig hi
  obtain ⟨bySignature, byName, calls⟩ := overloads_reachable.2 hmade plainAddress
  have hlonger : mintAbi[2] ∈ mintAbi := List.getElem_mem _
  have hshorter : mintAbi[1] ∈ mintAbi := List.getElem_mem _
  have hsignature : mintAbi[2].canonicalSignature? = some "mint(address,uint256)" := by
    decide +kernel
  obtain ⟨signature, longer, hsame, hfound, _, _, _, hfirst, _⟩ :=
    bySignature _ hlonger rfl (by decide)
  obtain rfl := Option.some.inj (hsignature.symm.trans hsame)
  obtain ⟨shorter, hnamed, hleading⟩ := byName "mint" (by decide) _ hshorter rfl (by decide)
  have hcall : ((i.contract plainAddress).encodeCall "mint(address,uint256)"
      mintParams).toOption.isSome = true := by
    rw [Inspector.contract, hmade.abi_eq]
    decide +kernel
  obtain ⟨data, hdata⟩ := Option.isSome_iff_exists.mp hcall
  rw [toOption_eq_some_iff] at hdata
  obtain ⟨_, _, values, hcalled, hown, -, hbytes⟩ := calls _ _ _ hdata
  obtain rfl := Except.ok.inj (hfound.symm.trans hcalled)
  obtain rfl := Option.some.inj (hfirst.2.symm.trans hown)
  refine ⟨i, longer, shorter, data, hmade, hfound, hfirst.2, hnamed, hleading, hdata, ?_⟩
  have hhash : (Keccak.keccak256 (utf8Bytes "mint(address,uint256)")).take 4 =
      [0x40, 0xc1, 0x0f, 0x19] := by
    rw [Keccak.keccak256_eq]
    decide +kernel
  rw [hbytes, hhash]
  rfl

end Contract

end ContractLens
