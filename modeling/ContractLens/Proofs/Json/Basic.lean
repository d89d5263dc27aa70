import ContractLens.Json.Basic
import Mathlib.Tactic

/-!
# JSON values as mappings

A value is `Plain` if its numbers are words and nothing in it is unreadable; these are the values
that records are written to. The canonical form of an object keeps its keys and, as long as no key
is repeated, the field of each key.

* `Plain`, `depth`: values that can be written and read again, and their levels of nesting.
* `lookup_canonicalFields`: the fields of an object in canonical form.
* `distinctKeys_iff`, `lookup_filter`: what a reader of records looks for in an object.
-/

namespace ContractLens.Json

/-! ## Plain values -/

/-- A value whose numbers are words of 64 bits and of which all can be read. -/
inductive Plain : Json → Prop
  | null : Plain null
  | bool (b : Bool) : Plain (bool b)
  | word (n : UInt64) : Plain (ofWord n)
  | str (s : String) : Plain (str s)
  | arr {items : List Json} : (∀ item ∈ items, Plain item) → Plain (arr items)
  | obj {fields : List (String × Json)} : (∀ field ∈ fields, Plain field.2) → Plain (obj fields)

mutual

/-- In how many levels arrays and objects are nested. -/
def depth : Json → ℕ
  | arr items => itemsDepth items + 1
  | obj fields => fieldsDepth fields + 1
  | _ => 0
termination_by structural j => j

/-- The levels of the deepest item. -/
def itemsDepth : List Json → ℕ
  | [] => 0
  | item :: rest => max item.depth (itemsDepth rest)
termination_by structural items => items

/-- The levels of the deepest field. -/
def fieldsDepth : List (String × Json) → ℕ
  | [] => 0
  | (_, value) :: rest => max value.depth (fieldsDepth rest)
termination_by structural fields => fields

end

theorem allReadable_iff {items : List Json} :
    allReadable items = true ↔ ∀ item ∈ items, item.isReadable = true := by
  induction items with
  | nil => simp [allReadable]
  | cons item items ih => simp [allReadable, ih]

theorem fieldsReadable_iff {fields : List (String × Json)} :
    fieldsReadable fields = true ↔ ∀ field ∈ fields, field.2.isReadable = true := by
  induction fields with
  | nil => simp [fieldsReadable]
  | cons field fields ih => simp [fieldsReadable, ih]

theorem Plain.isReadable {j : Json} (h : Plain j) : j.isReadable = true := by
  induction h with
  | null | bool | word | str => rfl
  | arr _ ih => exact allReadable_iff.mpr ih
  | obj _ ih => exact fieldsReadable_iff.mpr ih

theorem plain_ofTexts (texts : List String) : Plain (ofTexts texts) :=
  .arr fun item h => by
    obtain ⟨s, -, rfl⟩ := List.mem_map.mp h
    exact .str s

theorem plain_fieldOfOption {α : Type} {write : α → Json} (h : ∀ a, Plain (write a)) (key : String)
    (a? : Option α) : ∀ field ∈ fieldOfOption key write a?, Plain field.2 := by
  cases a? with
  | none => exact List.forall_mem_nil _
  | some a => simpa [fieldOfOption] using h a

/-! ## Canonical form -/

theorem canonicalItems_eq (items : List Json) : canonicalItems items = items.map canonical := by
  induction items with
  | nil => rfl
  | cons item items ih => rw [canonicalItems, ih, List.map_cons]

theorem lookup_cons (name key : String) (value : Json) (fields : List (String × Json)) :
    ((key, value) :: fields).lookup name =
      if name = key then some value else fields.lookup name := by
  by_cases h : name = key
  · simp [h]
  · simp [List.lookup_cons, h, beq_eq_false_iff_ne.mpr h]

/-- A field that is put in counts, whatever there was for its key. -/
theorem lookup_insertField (key name : String) (value : Json) (fields : List (String × Json)) :
    (insertField key value fields).lookup name =
      if name = key then some value else fields.lookup name := by
  induction fields with
  | nil => rw [insertField, lookup_cons]
  | cons field rest ih =>
    obtain ⟨k, v⟩ := field
    rw [insertField]
    by_cases hlt : key < k
    · rw [if_pos hlt, lookup_cons]
    by_cases heq : k = key
    · subst heq
      rw [if_neg hlt, if_pos rfl, lookup_cons, lookup_cons]
      split_ifs <;> rfl
    · rw [if_neg hlt, if_neg heq, lookup_cons, lookup_cons, ih]
      by_cases hname : name = key
      · rw [if_pos hname, if_neg fun h => heq (h.symm.trans hname), if_pos hname]
      · rw [if_neg hname, if_neg hname]

/-- The keys of the fields of an object. -/
def keys (fields : List (String × Json)) : List String := fields.map (·.1)

theorem keys_append (fields more : List (String × Json)) :
    keys (fields ++ more) = keys fields ++ keys more := List.map_append

theorem keys_fieldOfOption {α : Type} (key : String) (write : α → Json) (a? : Option α) :
    (keys (fieldOfOption key write a?)).Sublist [key] := by
  cases a? with
  | none => exact List.nil_sublist [key]
  | some a => exact List.Sublist.refl [key]

theorem keys_insertField {key : String} {fields : List (String × Json)} (h : key ∉ keys fields)
    (value : Json) : (keys (insertField key value fields)).Perm (key :: keys fields) := by
  induction fields with
  | nil => exact List.Perm.refl _
  | cons field rest ih =>
    obtain ⟨k, v⟩ := field
    obtain ⟨hne, hrest⟩ := not_or.mp (mt List.mem_cons.mpr h)
    rw [insertField]
    split_ifs with hlt heq
    · exact List.Perm.refl _
    · exact absurd heq.symm hne
    · exact ((ih hrest).cons k).trans (List.Perm.swap key k _)

/-- The canonical form of an object without repeated keys has the same keys. -/
theorem keys_canonicalFields {fields done : List (String × Json)}
    (h : (keys (done ++ fields)).Nodup) :
    (keys (canonicalFields done fields)).Perm (keys (done ++ fields)) := by
  induction fields generalizing done with
  | nil => simp [canonicalFields]
  | cons field rest ih =>
    obtain ⟨key, value⟩ := field
    have hmiddle : (keys (done ++ (key, value) :: rest)).Perm
        (key :: (keys done ++ keys rest)) := by
      rw [keys_append]
      exact List.perm_middle
    have hkey : key ∉ keys done := fun hmem =>
      (List.nodup_cons.mp (hmiddle.nodup_iff.mp h)).1 (List.mem_append_left _ hmem)
    have hperm : (keys (insertField key value.canonical done ++ rest)).Perm
        (keys (done ++ (key, value) :: rest)) := by
      rw [keys_append]
      exact ((keys_insertField hkey _).append_right _).trans hmiddle.symm
    rw [canonicalFields]
    exact (ih (hperm.nodup_iff.mpr h)).trans hperm

theorem lookup_eq_none {fields : List (String × Json)} {name : String} (h : name ∉ keys fields) :
    fields.lookup name = none := by
  rw [List.lookup_eq_none_iff]
  intro field hfield
  rw [bne_iff_ne]
  rintro rfl
  exact h (List.mem_map_of_mem hfield)

/-- It also has the same fields, each in canonical form. -/
theorem lookup_canonicalFields {fields : List (String × Json)} (h : (keys fields).Nodup)
    (done : List (String × Json)) (name : String) :
    (canonicalFields done fields).lookup name =
      ((fields.lookup name).map canonical).or (done.lookup name) := by
  induction fields generalizing done with
  | nil => rfl
  | cons field rest ih =>
    obtain ⟨key, value⟩ := field
    obtain ⟨hkey, hrest⟩ := List.nodup_cons.mp h
    rw [canonicalFields, ih hrest, lookup_insertField, lookup_cons]
    split_ifs with hname
    · rw [lookup_eq_none (hname ▸ hkey)]
      rfl
    · rfl

/-! ## Lists -/

theorem list?_map {α β : Type} {read : Json → Option β} {write : α → Json} {f : α → β}
    (h : ∀ a, read (write a) = some (f a)) (as : List α) :
    list? read (.arr (as.map write)) = some (as.map f) := by
  rw [list?]
  induction as with
  | nil => rfl
  | cons a as ih =>
    rw [List.map_cons, List.mapM_cons, h, ih]
    rfl

/-! ## Records -/

theorem distinctKeys_iff {fields : List (String × Json)} :
    distinctKeys fields = true ↔ (keys fields).Nodup := by
  induction fields with
  | nil => simp [distinctKeys, keys]
  | cons field rest ih =>
    obtain ⟨key, value⟩ := field
    have hany : (!rest.any (·.1 == key)) = true ↔ key ∉ keys rest := by
      rw [Bool.not_eq_true', ← Bool.not_eq_true, List.any_eq_true]
      simp [keys]
    rw [distinctKeys, Bool.and_eq_true, hany, ih]
    exact List.nodup_cons.symm

theorem lookup_filter (names : List String) {name : String} (h : name ∈ names)
    (fields : List (String × Json)) :
    (fields.filter fun (key, _) => names.contains key).lookup name = fields.lookup name := by
  induction fields with
  | nil => rfl
  | cons field rest ih =>
    obtain ⟨key, value⟩ := field
    rw [List.filter_cons]
    by_cases hkey : name = key
    · subst hkey
      rw [if_pos (by simpa using h), lookup_cons, lookup_cons, if_pos rfl, if_pos rfl]
    · rw [lookup_cons, if_neg hkey]
      split_ifs
      · rw [lookup_cons, if_neg hkey, ih]
      · exact ih

end ContractLens.Json
