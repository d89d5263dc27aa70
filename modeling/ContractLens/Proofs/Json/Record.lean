import ContractLens.Proofs.Json.Basic
import ContractLens.Quantity

/-!
# Records read back

A record is written as an object in which no key is repeated. It is read back field by field, whether
the fields stand as they were written or as the object is given as a mapping. What is left out where
there is nothing to write has to be what is read where a field is absent.

* `Form`, `inForm`: the two ways in which a value is given.
* `record?_inForm`: the fields that a reader finds in an object without repeated keys.
* `ReadsBack`: whatever is written is read back in both forms.
* `ReadsBack.required`, `ReadsBack.withDefault`, `ReadsBack.optional`: fields of a record.
* `ReadsBack.list`, `ReadsBack.nullable`: values made from others.
-/

namespace ContractLens.Json

/-! ## Forms of a value -/

/-- How the objects in a value are given: with their fields as they were written, or as mappings. -/
inductive Form where
  | written
  | canonical

/-- A value in a form. -/
def inForm : Form → Json → Json
  | .written, value => value
  | .canonical, value => value.canonical

@[simp] theorem inForm_null (form : Form) : inForm form null = null := by cases form <;> rfl

@[simp] theorem inForm_bool (form : Form) (b : Bool) : inForm form (bool b) = bool b := by
  cases form <;> rfl

@[simp] theorem inForm_str (form : Form) (s : String) : inForm form (str s) = str s := by
  cases form <;> rfl

@[simp] theorem inForm_ofWord (form : Form) (n : UInt64) : inForm form (ofWord n) = ofWord n := by
  cases form <;> rfl

theorem inForm_arr (form : Form) (items : List Json) :
    inForm form (arr items) = arr (items.map (inForm form)) := by
  cases form with
  | written => exact congrArg arr (List.map_id items).symm
  | canonical => exact congrArg arr (canonicalItems_eq items)

/-- An object without repeated keys stays one, and each field is given in the same form. -/
theorem exists_inForm_obj (form : Form) {fields : List (String × Json)} (h : (keys fields).Nodup) :
    ∃ fields', inForm form (obj fields) = obj fields' ∧ (keys fields').Nodup ∧
      ∀ name, fields'.lookup name = (fields.lookup name).map (inForm form) := by
  cases form with
  | written => exact ⟨fields, rfl, h, fun name => Option.map_id'.symm⟩
  | canonical =>
    have hkeys : (keys (canonicalFields [] fields)).Perm (keys fields) := keys_canonicalFields h
    refine ⟨canonicalFields [] fields, rfl, hkeys.nodup_iff.mpr h, fun name => ?_⟩
    rw [lookup_canonicalFields h, List.lookup_nil, Option.or_none]
    rfl

/-- An object without repeated keys is a record with the fields of these names. -/
theorem record?_obj {fields : List (String × Json)} (h : (keys fields).Nodup)
    (names : List String) :
    ∃ r, (obj fields).record? names = some r ∧ ∀ name ∈ names, r.get? name = fields.lookup name := by
  have hdistinct (known : String × Json → Bool) : distinctKeys (fields.filter known) = true :=
    distinctKeys_iff.mpr (h.sublist (List.filter_sublist.map _))
  refine ⟨⟨_⟩, by rw [record?, if_pos (hdistinct _)], fun name hname => ?_⟩
  exact lookup_filter names hname fields

/-- So it is in both forms. -/
theorem record?_inForm (form : Form) (value : Json) {fields : List (String × Json)}
    (hvalue : value = obj fields) (h : (keys fields).Nodup) (names : List String) :
    ∃ r, (inForm form value).record? names = some r ∧
      ∀ name ∈ names, r.get? name = (value.field? name).map (inForm form) := by
  subst hvalue
  obtain ⟨fields', hfields, hnodup, hlookup⟩ := exists_inForm_obj form h
  obtain ⟨r, hr, hget⟩ := record?_obj hnodup names
  exact ⟨r, hfields ▸ hr, fun name hname => (hget name hname).trans (hlookup name)⟩

/-! ## Fields that are left out -/

theorem lookup_fieldOfOption {α : Type} (key other : String) (write : α → Json) (a? : Option α) :
    (fieldOfOption other write a?).lookup key = if key = other then a?.map write else none := by
  cases a? with
  | none => simp [fieldOfOption]
  | some a =>
    by_cases hkey : key = other
    · simp [fieldOfOption, hkey]
    · simp [fieldOfOption, List.lookup_cons, hkey, beq_eq_false_iff_ne.mpr hkey]

/-- A field holds a value, or it is left out and the value is the one of an absent field. -/
def Holds {α : Type} (write : α → Json) (absent a : α) (value? : Option Json) : Prop :=
  value? = some (write a) ∨ value? = none ∧ a = absent

/-- A field that is left out where there is nothing to write holds nothing then. -/
theorem holds_map {α : Type} (write : α → Json) (a? : Option α) :
    Holds (ofOption write) none a? (a?.map write) := by
  cases a? with
  | none => exact Or.inr ⟨rfl, rfl⟩
  | some a => exact Or.inl rfl

/-! ## Reading back -/

/-- Whatever is written is read back, in both forms. -/
def ReadsBack {α : Type} (read : Json → Option α) (write : α → Json) : Prop :=
  ∀ form a, read (inForm form (write a)) = some a

theorem readsBack_text : ReadsBack text? str := fun form s => by rw [inForm_str, text?]

theorem readsBack_flag : ReadsBack flag? bool := fun form b => by rw [inForm_bool, flag?]

theorem word?_ofWord (n : UInt64) : (ofWord n).word? = some n := by
  have hrange : (0 : ℤ) ≤ n.toNat ∧ (n.toNat : ℤ) < Nat.pow 2 64 :=
    ⟨Int.natCast_nonneg _, by exact_mod_cast n.toNat_lt⟩
  rw [ofWord, word?, if_pos hrange, Int.toNat_natCast, UInt64.ofNat_toNat]

theorem readsBack_quantity : ReadsBack Quantity.ofJson? ofWord := fun form n => by
  rw [inForm_ofWord]
  exact word?_ofWord n

/-! ## Fields and values made from others -/

namespace ReadsBack

variable {α : Type} {read : Json → Option α} {write : α → Json} {form : Form} {r : Record}
  {name : String} {value? : Option Json}

/-- Both forms of what was written. -/
theorem both (h : ReadsBack read write) (a : α) :
    read (write a) = some a ∧ read (write a).canonical = some a := ⟨h .written a, h .canonical a⟩

theorem list (h : ReadsBack read write) :
    ReadsBack (list? read) fun as => arr (as.map write) := by
  intro form as
  have hitems := list?_map (h form) as
  rw [inForm_arr, List.map_map]
  rwa [List.map_id'] at hitems

/-- Where `null` is not read as a value it can stand for nothing. -/
theorem nullable (h : ReadsBack read write) (hnull : read null = none) :
    ReadsBack (nullable? read) (ofOption write) := by
  intro form a?
  cases a? with
  | none => rw [ofOption, inForm_null, nullable?]
  | some a =>
    have hread := h form a
    rw [ofOption, nullable?.eq_def]
    split
    · next hvalue =>
      rw [hvalue, hnull] at hread
      cases hread
    · rw [hread, Option.map_some]

theorem required (h : ReadsBack read write) {a : α} (hget : r.get? name = value?.map (inForm form))
    (hvalue : value? = some (write a)) : r.required name read = some a := by
  rw [Record.required, hget, hvalue, Option.map_some, Option.bind_some, h form a]

theorem withDefault (h : ReadsBack read write) {absent a : α}
    (hget : r.get? name = value?.map (inForm form)) (hvalue : Holds write absent a value?) :
    r.withDefault name absent read = some a := by
  rw [Record.withDefault, hget]
  rcases hvalue with rfl | ⟨rfl, rfl⟩
  · exact h form a
  · rfl

theorem optional (h : ReadsBack read write) (hnull : read null = none) {a? : Option α}
    (hget : r.get? name = value?.map (inForm form)) (hvalue : Holds (ofOption write) none a? value?) :
    r.optional name read = some a? :=
  (h.nullable hnull).withDefault hget hvalue

end ReadsBack

theorem readsBack_nullableQuantity : ReadsBack Quantity.ofNullable? (ofOption ofWord) :=
  readsBack_quantity.nullable rfl

end ContractLens.Json
