import ContractLens.Abi.Fragment
import ContractLens.Proofs.Json.Record

/-!
# Interface descriptions read back

A parameter is read back with all its parts, to any depth, and so is a fragment. Parts, outputs and
options that are not there are left out, and what is left out is read as not there.

* `Param.ofJson?_inForm`: a parameter, by induction on its parts.
* `Param.readsBack_list`, `FragmentKind.readsBack`: what a fragment is made of.
* `Fragment.readsBack`: a fragment.
-/

namespace ContractLens.Abi

open Json (Form inForm Holds ReadsBack)

/-! ## Parameters -/

namespace Param

/-- The fields of a parameter. -/
def toFields (p : Param) : List (String × Json) :=
  [("name", .str p.name), ("type", .str p.type)] ++ componentsField p.components ++
    Json.fieldOfOption "indexed" .bool p.indexed ++
    Json.fieldOfOption "internalType" .str p.internalType

theorem toJson_eq (p : Param) : p.toJson = .obj p.toFields := by
  cases p
  rw [toJson]
  rfl

theorem keys_componentsField (ps : List Param) :
    (Json.keys (componentsField ps)).Sublist ["components"] := by
  cases ps with
  | nil => exact List.nil_sublist _
  | cons p ps => exact List.Sublist.refl _

theorem nodup_keys (p : Param) : (Json.keys p.toFields).Nodup := by
  have hall : fieldNames.Nodup := by decide
  refine hall.sublist ?_
  simp only [toFields, Json.keys_append]
  exact (((List.Sublist.refl ["name", "type"]).append (keys_componentsField _)).append
    (Json.keys_fieldOfOption _ _ _)).append (Json.keys_fieldOfOption _ _ _)

theorem lookup_componentsField (ps : List Param) (name : String) :
    (componentsField ps).lookup name =
      if name = "components" ∧ ps ≠ [] then some (.arr (listToItems ps)) else none := by
  cases ps with
  | nil => simp [componentsField]
  | cons p ps => simp [componentsField, Json.lookup_cons, listToItems]

theorem lookup_toFields (p : Param) :
    p.toFields.lookup "name" = some (.str p.name) ∧
    p.toFields.lookup "type" = some (.str p.type) ∧
    p.toFields.lookup "components" = (componentsField p.components).lookup "components" ∧
    p.toFields.lookup "indexed" = p.indexed.map Json.bool ∧
    p.toFields.lookup "internalType" = p.internalType.map Json.str := by
  refine ⟨?_, ?_, ?_, ?_, ?_⟩ <;>
    simp [toFields, List.lookup_append, Json.lookup_cons, Json.lookup_fieldOfOption,
      lookup_componentsField]

/-- The parts are those of the first field of their name. -/
theorem componentsByName?_eq (fields : List (String × Json)) :
    componentsByName? fields =
      match fields.lookup "components" with
      | none => some []
      | some value => listOfJson? value := by
  induction fields with
  | nil => rfl
  | cons field rest ih =>
    obtain ⟨key, value⟩ := field
    rw [componentsByName?, Json.lookup_cons, ih]
    by_cases hkey : key = "components"
    · rw [if_pos hkey, if_pos hkey.symm]
    · rw [if_neg hkey, if_neg (Ne.symm hkey)]

/-- A parameter is read back if its parts are. -/
theorem ofJson?_of_components (form : Form) (p : Param)
    (h : listOfItems? ((listToItems p.components).map (inForm form)) = some p.components) :
    ofJson? (inForm form p.toJson) = some p := by
  obtain ⟨fields, hfields, hnodup, hlookup⟩ := Json.exists_inForm_obj form p.nodup_keys
  obtain ⟨r, hr, hget⟩ := Json.record?_obj hnodup fieldNames
  have hfield : ∀ name ∈ fieldNames, r.get? name = (p.toFields.lookup name).map (inForm form) :=
    fun name hname => (hget name hname).trans (hlookup name)
  obtain ⟨hname, htype, hcomponents, hindexed, hinternal⟩ := p.lookup_toFields
  have hreadComponents : componentsByName? fields = some p.components := by
    rw [componentsByName?_eq, hlookup, hcomponents]
    -- without parts the field is left out
    cases hps : p.components with
    | nil => rfl
    | cons q qs =>
      rw [hps] at h
      show listOfJson? (inForm form (.arr (listToItems (q :: qs)))) = _
      rw [Json.inForm_arr, listOfJson?]
      exact h
  have hreadName : r.withDefault "name" "" Json.text? = some p.name :=
    Json.readsBack_text.withDefault (hfield "name" (by decide)) (Or.inl hname)
  have hreadType : r.required "type" Json.text? = some p.type :=
    Json.readsBack_text.required (hfield "type" (by decide)) htype
  have hreadIndexed : r.optional "indexed" Json.flag? = some p.indexed :=
    Json.readsBack_flag.optional rfl (hfield "indexed" (by decide))
      (hindexed ▸ Json.holds_map _ _)
  have hreadInternal : r.optional "internalType" Json.text? = some p.internalType :=
    Json.readsBack_text.optional rfl (hfield "internalType" (by decide))
      (hinternal ▸ Json.holds_map _ _)
  rw [toJson_eq, hfields, ofJson?, hr]
  simp only [Option.bind_eq_bind, Option.bind_some, hreadComponents, ofRecord?, hreadName,
    hreadType, hreadIndexed, hreadInternal]
  cases p
  rfl

mutual

/-- A parameter is read back with all its parts. -/
theorem ofJson?_inForm (form : Form) : ∀ p : Param, ofJson? (inForm form p.toJson) = some p
  | mk _ _ components _ _ =>
    ofJson?_of_components form _ (listOfItems?_inForm form components)
termination_by structural p => p

theorem listOfItems?_inForm (form : Form) :
    ∀ ps : List Param, listOfItems? ((listToItems ps).map (inForm form)) = some ps
  | [] => rfl
  | p :: ps => by
    rw [listToItems, List.map_cons, listOfItems?, ofJson?_inForm form p,
      listOfItems?_inForm form ps]
    rfl
termination_by structural ps => ps

end

theorem readsBack_list : ReadsBack listOfJson? fun ps => .arr (listToItems ps) := by
  intro form ps
  rw [Json.inForm_arr, listOfJson?]
  exact listOfItems?_inForm form ps

end Param

/-! ## Fragments -/

theorem FragmentKind.readsBack : ReadsBack ofJson? fun kind => .str kind.name := by
  intro form kind
  rw [Json.inForm_str, ofJson?]
  cases kind <;> rfl

namespace Fragment

/-- The fields of a fragment. -/
def toFields (f : Fragment) : List (String × Json) :=
  [("type", .str f.kind.name)] ++ Json.fieldOfOption "name" .str f.givenName ++
    [("inputs", .arr (Param.listToItems f.inputs))] ++
    (if f.outputs = [] then [] else [("outputs", .arr (Param.listToItems f.outputs))]) ++
    Json.fieldOfOption "anonymous" .bool f.anonymous ++
    Json.fieldOfOption "stateMutability" .str f.stateMutability ++
    Json.fieldOfOption "constant" .bool f.constant ++
    Json.fieldOfOption "payable" .bool f.payable

theorem toJson_eq (f : Fragment) : f.toJson = .obj f.toFields := rfl

theorem nodup_keys (f : Fragment) : (Json.keys f.toFields).Nodup := by
  have hall : fieldNames.Nodup := by decide
  have houtputs : (Json.keys (if f.outputs = [] then []
      else [("outputs", Json.arr (Param.listToItems f.outputs))])).Sublist ["outputs"] := by
    split_ifs
    · exact List.nil_sublist _
    · exact List.Sublist.refl _
  refine hall.sublist ?_
  simp only [toFields, Json.keys_append]
  exact (((((((List.Sublist.refl ["type"]).append (Json.keys_fieldOfOption _ _ _)).append
    (List.Sublist.refl ["inputs"])).append houtputs).append
    (Json.keys_fieldOfOption _ _ _)).append (Json.keys_fieldOfOption _ _ _)).append
    (Json.keys_fieldOfOption _ _ _)).append (Json.keys_fieldOfOption _ _ _)

theorem field?_toJson (f : Fragment) :
    f.toJson.field? "type" = some (.str f.kind.name) ∧
    f.toJson.field? "name" = f.givenName.map Json.str ∧
    f.toJson.field? "inputs" = some (.arr (Param.listToItems f.inputs)) ∧
    f.toJson.field? "outputs" =
      (if f.outputs = [] then none else some (.arr (Param.listToItems f.outputs))) ∧
    f.toJson.field? "anonymous" = f.anonymous.map Json.bool ∧
    f.toJson.field? "stateMutability" = f.stateMutability.map Json.str ∧
    f.toJson.field? "constant" = f.constant.map Json.bool ∧
    f.toJson.field? "payable" = f.payable.map Json.bool := by
  have houtputs (name : String) : (if f.outputs = [] then []
      else [("outputs", Json.arr (Param.listToItems f.outputs))]).lookup name =
        if name = "outputs" ∧ f.outputs ≠ [] then some (.arr (Param.listToItems f.outputs))
        else none := by
    by_cases h : f.outputs = []
    · simp [h]
    · simp [h, Json.lookup_cons]
  rw [toJson_eq]
  refine ⟨?_, ?_, ?_, ?_, ?_, ?_, ?_, ?_⟩ <;>
    simp [Json.field?, toFields, List.lookup_append, Json.lookup_cons, Json.lookup_fieldOfOption,
      houtputs]

/-- A fragment is read back. -/
theorem readsBack : ReadsBack ofJson? toJson := by
  intro form f
  obtain ⟨r, hr, hget⟩ := Json.record?_inForm form f.toJson f.toJson_eq f.nodup_keys fieldNames
  obtain ⟨hkind, hname, hinputs, houtputs, hanonymous, hmutability, hconstant, hpayable⟩ :=
    f.field?_toJson
  have hreadKind : r.withDefault "type" .function FragmentKind.ofJson? = some f.kind :=
    FragmentKind.readsBack.withDefault (hget "type" (by decide)) (Or.inl hkind)
  have hreadName : r.optional "name" Json.text? = some f.givenName :=
    Json.readsBack_text.optional rfl (hget "name" (by decide)) (hname ▸ Json.holds_map _ _)
  have hreadInputs : r.withDefault "inputs" [] Param.listOfJson? = some f.inputs :=
    Param.readsBack_list.withDefault (hget "inputs" (by decide)) (Or.inl hinputs)
  have hreadOutputs : r.withDefault "outputs" [] Param.listOfJson? = some f.outputs := by
    refine Param.readsBack_list.withDefault (hget "outputs" (by decide)) ?_
    rw [houtputs]
    split_ifs with hempty
    · exact Or.inr ⟨rfl, hempty⟩
    · exact Or.inl rfl
  have hreadAnonymous : r.optional "anonymous" Json.flag? = some f.anonymous :=
    Json.readsBack_flag.optional rfl (hget "anonymous" (by decide))
      (hanonymous ▸ Json.holds_map _ _)
  have hreadMutability : r.optional "stateMutability" Json.text? = some f.stateMutability :=
    Json.readsBack_text.optional rfl (hget "stateMutability" (by decide))
      (hmutability ▸ Json.holds_map _ _)
  have hreadConstant : r.optional "constant" Json.flag? = some f.constant :=
    Json.readsBack_flag.optional rfl (hget "constant" (by decide))
      (hconstant ▸ Json.holds_map _ _)
  have hreadPayable : r.optional "payable" Json.flag? = some f.payable :=
    Json.readsBack_flag.optional rfl (hget "payable" (by decide)) (hpayable ▸ Json.holds_map _ _)
  rw [ofJson?, hr]
  simp only [Option.bind_eq_bind, Option.bind_some, hreadKind, hreadName, hreadInputs,
    hreadOutputs, hreadAnonymous, hreadMutability, hreadConstant, hreadPayable]
  rfl

/-- So are the fragments of an interface description. -/
theorem readsBack_list : ReadsBack listOfJson? fun fs => .arr (fs.map toJson) := readsBack.list

end Fragment

end ContractLens.Abi
