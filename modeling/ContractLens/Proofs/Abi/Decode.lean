import ContractLens.Abi.Decode
import Mathlib.Data.List.Forall2

/-!
# Decoded data has its type's form

Whatever the data is, a decoder gives only values of its type's form: an address for `address`, a
list of addresses for `address[]`.

* `AbiType.Reads`: what a type's decoder gives for some data.
* `decodeParams_eq_ok`, `decodeWord_eq_ok`: the values of a parameter list and of a word are such.
* `AbiType.Reads.address`, `AbiType.Reads.array`: the forms for addresses and arrays.
-/

namespace ContractLens.Abi

/-- The type's decoder gives this for some data. -/
def AbiType.Reads (t : AbiType) (d : Datum) : Prop := ∃ c c', t.decode c = .ok (d, c')

/-! ## Readers -/

theorem wordValue_eq_ok {c c' : Cursor} {value : List UInt8 → Datum} {d : Datum}
    (h : c.wordValue value = .ok (d, c')) : ∃ w, d = value w := by
  unfold Cursor.wordValue at h
  split at h
  · cases h
    exact ⟨_, rfl⟩
  · cases h

/-- Every one of many values is read in the same way. -/
theorem forall_many {read : Cursor → Except DecodeFault (Datum × Cursor)} {n : ℕ} {c c' : Cursor}
    {ds : List Datum} (h : Cursor.many read n c = .ok (ds, c')) :
    ∀ d ∈ ds, ∃ c c', read c = .ok (d, c') := by
  induction n generalizing c ds with
  | zero => cases h; simp
  | succ n ih =>
    rw [Cursor.many] at h
    split at h
    · cases h
    · next d c₁ hread =>
      split at h
      · next ds₁ c₂ hmany =>
        cases h
        intro d' hd'
        rcases List.mem_cons.mp hd' with rfl | hd'
        · exact ⟨c, c₁, hread⟩
        · exact ih hmany d' hd'
      · cases h

/-- The items of a list are what its reader reads. -/
theorem list_eq_ok {c c' : Cursor} {minWords : ℕ}
    {read : ℕ → Cursor → Except DecodeFault (List Datum × Cursor)} {items : List Datum}
    (h : c.list minWords read = .ok (items, c')) :
    items = [] ∨ ∃ n inner done, read n inner = .ok (items, done) := by
  unfold Cursor.list at h
  split at h
  · cases h
  split at h
  · cases h
  · cases h
    exact Or.inl rfl
  split at h
  · cases h
  split at h
  · cases h
  split at h
  · cases h
  split at h
  · next items done hread =>
    cases h
    exact Or.inr ⟨_, _, done, hread⟩
  · cases h

/-! ## Forms of values -/

theorem AbiType.Reads.address {d : Datum} (h : AbiType.address.Reads d) :
    ∃ raw, d = .address raw := by
  obtain ⟨c, c', h⟩ := h
  rw [AbiType.decode] at h
  obtain ⟨w, rfl⟩ := wordValue_eq_ok h
  exact ⟨w.drop 12, rfl⟩

theorem AbiType.Reads.array {t : AbiType} {d : Datum} (h : t.array.Reads d) :
    ∃ items, d = .array items ∧ ∀ item ∈ items, t.Reads item := by
  obtain ⟨c, c', h⟩ := h
  rw [AbiType.decode] at h
  split at h
  · next items c₁ hlist =>
    cases h
    refine ⟨items, rfl, ?_⟩
    rcases list_eq_ok hlist with rfl | ⟨n, c₂, c₃, hmany⟩
    · simp
    · exact forall_many hmany
  · cases h

/-! ## Values of a parameter list and of a word -/

theorem forall₂_decodeAll {types : List AbiType} {c c' : Cursor} {ds : List Datum}
    (h : AbiType.decodeAll types c = .ok (ds, c')) : List.Forall₂ AbiType.Reads types ds := by
  induction types generalizing c ds with
  | nil => cases h; exact .nil
  | cons t types ih =>
    rw [AbiType.decodeAll] at h
    split at h
    · cases h
    · next d c₁ hread =>
      split at h
      · next ds₁ c₂ hrest =>
        cases h
        exact .cons ⟨c, c₁, hread⟩ (ih hrest)
      · cases h

/-- The values of a parameter list have its types, unless these hold nothing. -/
theorem decodeParams_eq_ok {types : List AbiType} {data : List UInt8} {ds : List Datum}
    (h : AbiType.decodeParams types data = .ok ds) :
    AbiType.allEmpty types = true ∧ ds = [] ∨ List.Forall₂ AbiType.Reads types ds := by
  unfold AbiType.decodeParams at h
  split_ifs at h with hempty
  · cases h
    exact Or.inl ⟨hempty, rfl⟩
  split at h
  · cases h
  split at h
  · next ds c hread =>
    cases h
    exact Or.inr (forall₂_decodeAll hread)
  · cases h

theorem decodeWord_eq_ok {t : AbiType} {data : List UInt8} {d : Datum}
    (h : t.decodeWord data = .ok d) : t.Reads d := by
  unfold AbiType.decodeWord at h
  split at h
  · cases h
    exact ⟨_, _, ‹_›⟩
  · cases h

end ContractLens.Abi
