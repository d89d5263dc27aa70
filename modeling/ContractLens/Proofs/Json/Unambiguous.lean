import ContractLens.Proofs.Json.Printer

/-!
# One text, one value

The tokens of a plain value tell it from every other plain value and say where it ends, so two plain
values that are written in the same way are the same, however deeply they are nested. The first
token tells a value that holds no others, an array or an object; the induction on the value goes
along the items or fields.

* `Plain.eq_of_scalar`, `Plain.eq_arr`, `Plain.eq_obj`: what the first token tells.
* `Tells`, `Plain.tells`: the tokens of a plain value tell which one it is.
* `Plain.eq_of_text`: so does its text.
-/

namespace ContractLens.Json

/-! ## First tokens -/

section FirstTokens

variable {value : Json} {rest ts : List Token}

theorem Plain.eq_of_scalar (h : Plain value) {t : Token} {scalar : Json}
    (ht : t.scalar? = some scalar) (heq : value.toTokens ++ rest = t :: ts) :
    value = scalar ∧ rest = ts := by
  cases h with
  | null | word | str =>
    cases heq
    cases ht
    exact ⟨rfl, rfl⟩
  | bool b =>
    cases b <;>
    · cases heq
      cases ht
      exact ⟨rfl, rfl⟩
  | @arr items _ => cases items <;> cases heq <;> cases ht
  | @obj fields _ => cases fields <;> cases heq <;> cases ht

theorem Plain.eq_arr (h : Plain value) (heq : value.toTokens ++ rest = .openArray :: ts) :
    ∃ items, value = Json.arr items ∧ ∀ item ∈ items, Plain item := by
  cases h with
  | null | word | str => cases heq
  | bool b => cases b <;> cases heq
  | @arr items hitems => exact ⟨items, rfl, hitems⟩
  | @obj fields _ => cases fields <;> cases heq

theorem Plain.eq_obj (h : Plain value) (heq : value.toTokens ++ rest = .openObject :: ts) :
    ∃ fields, value = Json.obj fields ∧ ∀ field ∈ fields, Plain field.2 := by
  cases h with
  | null | word | str => cases heq
  | bool b => cases b <;> cases heq
  | @arr items _ => cases items <;> cases heq
  | @obj fields hfields => exact ⟨fields, rfl, hfields⟩

/-- No value starts with the end of an array. -/
theorem Plain.append_ne_closeArray (h : Plain value) :
    value.toTokens ++ rest ≠ .closeArray :: ts := by
  intro heq
  cases h with
  | null | word | str => cases heq
  | bool b => cases b <;> cases heq
  | @arr items _ => cases items <;> cases heq
  | @obj fields _ => cases fields <;> cases heq

end FirstTokens

/-! ## Values -/

/-- The tokens of a value tell it from every other plain value, and where it ends. -/
def Tells (value : Json) : Prop :=
  ∀ other, Plain other → ∀ rest more, value.toTokens ++ rest = other.toTokens ++ more →
    value = other ∧ rest = more

theorem tells_of_scalar {value : Json} {t : Token} (hvalue : value.toTokens = [t])
    (ht : t.scalar? = some value) : Tells value := by
  intro other hother rest more h
  rw [hvalue, List.singleton_append] at h
  obtain ⟨hval, hmore⟩ := hother.eq_of_scalar ht h.symm
  exact ⟨hval.symm, hmore.symm⟩

/-- The tokens of further items tell these, and where they end. -/
theorem eq_of_itemTokens {items others : List Json} (hitems : ∀ item ∈ items, Tells item)
    (hothers : ∀ other ∈ others, Plain other) {rest more : List Token}
    (h : itemTokens items ++ rest = itemTokens others ++ more) : items = others ∧ rest = more := by
  induction items generalizing others with
  | nil =>
    cases others with
    | nil => exact ⟨rfl, (List.cons.inj h).2⟩
    | cons other others => cases h
  | cons item items ih =>
    cases others with
    | nil => cases h
    | cons other others =>
      obtain ⟨hitem, hitems⟩ := List.forall_mem_cons.mp hitems
      obtain ⟨hother, hothers'⟩ := List.forall_mem_cons.mp hothers
      simp only [itemTokens, List.cons_append, List.append_assoc] at h
      obtain ⟨hhead, htail⟩ := hitem other hother _ _ (List.cons.inj h).2
      obtain ⟨hothers, hrest⟩ := ih hitems hothers' htail
      exact ⟨congrArg₂ List.cons hhead hothers, hrest⟩

/-- So do those of further fields. -/
theorem eq_of_fieldTokens {fields others : List (String × Json)}
    (hfields : ∀ field ∈ fields, Tells field.2) (hothers : ∀ other ∈ others, Plain other.2)
    {rest more : List Token} (h : fieldTokens fields ++ rest = fieldTokens others ++ more) :
    fields = others ∧ rest = more := by
  induction fields generalizing others with
  | nil =>
    cases others with
    | nil => exact ⟨rfl, (List.cons.inj h).2⟩
    | cons other others => cases h
  | cons field fields ih =>
    cases others with
    | nil => cases h
    | cons other others =>
      obtain ⟨hfield, hfields⟩ := List.forall_mem_cons.mp hfields
      obtain ⟨hother, hothers'⟩ := List.forall_mem_cons.mp hothers
      simp only [fieldTokens, List.cons_append, List.append_assoc, List.cons.injEq,
        Token.string.injEq, Option.some.injEq, true_and] at h
      obtain ⟨hkey, htokens⟩ := h
      obtain ⟨hvalue, htail⟩ := hfield other.2 hother _ _ htokens
      obtain ⟨hothers, hrest⟩ := ih hfields hothers' htail
      exact ⟨congrArg₂ List.cons (Prod.ext hkey hvalue) hothers, hrest⟩

theorem tells_arr {items : List Json} (hplain : ∀ item ∈ items, Plain item)
    (hitems : ∀ item ∈ items, Tells item) : Tells (arr items) := by
  intro other hother rest more h
  have hopen : ∃ ts, (arr items).toTokens ++ rest = .openArray :: ts := by
    cases items <;> exact ⟨_, rfl⟩
  obtain ⟨ts, hts⟩ := hopen
  obtain ⟨others, rfl, hothers⟩ := hother.eq_arr (h.symm.trans hts)
  cases items with
  | nil =>
    cases others with
    | nil => exact ⟨rfl, (List.cons.inj (List.cons.inj h).2).2⟩
    | cons other others =>
      have hend : other.toTokens ++ (itemTokens others ++ more) = .closeArray :: rest := by
        rw [← List.append_assoc]
        exact (List.cons.inj h).2.symm
      exact absurd hend (hothers other List.mem_cons_self).append_ne_closeArray
  | cons item items =>
    cases others with
    | nil =>
      have hend : item.toTokens ++ (itemTokens items ++ rest) = .closeArray :: more := by
        rw [← List.append_assoc]
        exact (List.cons.inj h).2
      exact absurd hend (hplain item List.mem_cons_self).append_ne_closeArray
    | cons other others =>
      -- behind the bracket stand the tokens that stand behind a comma in a longer array
      have hcomma : itemTokens (item :: items) ++ rest = itemTokens (other :: others) ++ more :=
        congrArg (List.cons Token.comma) (List.cons.inj h).2
      obtain ⟨heq, hrest⟩ := eq_of_itemTokens hitems hothers hcomma
      exact ⟨congrArg arr heq, hrest⟩

theorem tells_obj {fields : List (String × Json)} (hfields : ∀ field ∈ fields, Tells field.2) :
    Tells (obj fields) := by
  intro other hother rest more h
  have hopen : ∃ ts, (obj fields).toTokens ++ rest = .openObject :: ts := by
    cases fields <;> exact ⟨_, rfl⟩
  obtain ⟨ts, hts⟩ := hopen
  obtain ⟨others, rfl, hothers⟩ := hother.eq_obj (h.symm.trans hts)
  cases fields with
  | nil =>
    cases others with
    | nil => exact ⟨rfl, (List.cons.inj (List.cons.inj h).2).2⟩
    | cons other others => cases h
  | cons field fields =>
    cases others with
    | nil => cases h
    | cons other others =>
      have hcomma : fieldTokens (field :: fields) ++ rest = fieldTokens (other :: others) ++ more :=
        congrArg (List.cons Token.comma) (List.cons.inj h).2
      obtain ⟨heq, hrest⟩ := eq_of_fieldTokens hfields hothers hcomma
      exact ⟨congrArg obj heq, hrest⟩

/-- The tokens of a plain value tell which one it is. -/
theorem Plain.tells {value : Json} (h : Plain value) : Tells value := by
  induction h with
  | null | word | str => exact tells_of_scalar rfl rfl
  | bool b => cases b <;> exact tells_of_scalar rfl rfl
  | arr hplain ih => exact tells_arr hplain ih
  | obj _ ih => exact tells_obj ih

/-! ## Texts -/

/-- Plain values that have the same text, on one line or on indented lines, are the same. -/
theorem Plain.eq_of_text {value other : Json} (h : Plain value) (hother : Plain other)
    (htext : value.compact = other.compact ∨ value.pretty = other.pretty) : value = other := by
  have hblanks : ∀ c ∈ "".toList, isBlank c = true := List.forall_mem_nil _
  have htokens : value.toTokens = other.toTokens := by
    rcases htext with htext | htext
    · have hread := tokens?_of_spells hblanks h.spells_compact
      rw [← compact, htext, compact, tokens?_of_spells hblanks hother.spells_compact] at hread
      exact (Option.some.inj hread).symm
    · have hread := tokens?_of_spells hblanks (h.spells_pretty 0)
      rw [← pretty, htext, pretty, tokens?_of_spells hblanks (hother.spells_pretty 0)] at hread
      exact (Option.some.inj hread).symm
  exact (h.tells other hother [] [] (congrArg (· ++ []) htokens)).1

end ContractLens.Json
