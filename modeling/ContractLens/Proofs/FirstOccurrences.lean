import Mathlib.Tactic

/-!
# First members and first occurrences

The first member of a list with a property is what a search for it finds.

A list that has each member of another one once, in the order in which the members occur there
first, grows with that one: a member more at its end is kept if it is new.

* `IsFirst`: a member has a property, and none before it has.
* `find?_eq_some_iff_isFirst`: a search finds the first member.
* `FirstOccurrences`: what is kept of a list.
* `FirstOccurrences.append_of_mem`, `FirstOccurrences.append_of_not_mem`: one member more.
* `eq_of_idxOf_lt`: no two lists are kept of the same one.
-/

namespace ContractLens

/-! ## First members -/

/-- The first member of a list with a property. -/
def IsFirst {α : Type} (P : α → Prop) (l : List α) (a : α) : Prop :=
  ∃ before after, l = before ++ a :: after ∧ P a ∧ ∀ b ∈ before, ¬P b

theorem IsFirst.congr {α : Type} {P Q : α → Prop} {l : List α} {a : α} (h : IsFirst P l a)
    (hPQ : ∀ b, P b ↔ Q b) : IsFirst Q l a := by
  obtain rfl : P = Q := funext fun b => propext (hPQ b)
  exact h

/-- A search finds the first member that passes its test. -/
theorem find?_eq_some_iff_isFirst {α : Type} {p : α → Bool} {l : List α} {a : α} :
    l.find? p = some a ↔ IsFirst (fun b => p b = true) l a := by
  rw [List.find?_eq_some_iff_append]
  constructor
  · rintro ⟨ha, before, after, hl, hbefore⟩
    exact ⟨before, after, hl, ha, fun b hb => by simpa using hbefore b hb⟩
  · rintro ⟨before, after, hl, ha, hbefore⟩
    exact ⟨ha, before, after, hl, fun b hb => by simpa using hbefore b hb⟩

/-- The first member of those that pass a test is the first one that passes it as well. -/
theorem IsFirst.of_filter {α : Type} {p : α → Bool} {P : α → Prop} {l : List α} {a : α}
    (h : IsFirst P (l.filter p) a) : IsFirst (fun b => p b = true ∧ P b) l a := by
  obtain ⟨before, after, hl, ha, hbefore⟩ := h
  obtain ⟨l₁, l₂, rfl, hl₁, hl₂⟩ := List.filter_eq_append_iff.mp hl
  obtain ⟨l₃, l₄, rfl, hl₃, hpa, -⟩ := List.filter_eq_cons_iff.mp hl₂
  refine ⟨l₁ ++ l₃, l₄, by rw [List.append_assoc], ⟨hpa, ha⟩, fun b hb hPb => ?_⟩
  rcases List.mem_append.mp hb with hb | hb
  · exact hbefore b (hl₁ ▸ List.mem_filter.mpr ⟨hb, hPb.1⟩) hPb.2
  · exact hl₃ b hb hPb.1

/-! ## First occurrences -/

/-- What is kept of a list: each of its members once, in the order in which they occur first. -/
structure FirstOccurrences (all kept : List String) : Prop where
  mem_iff : ∀ a, a ∈ kept ↔ a ∈ all
  order : kept.Pairwise fun a b => all.idxOf a < all.idxOf b

namespace FirstOccurrences

variable {all kept : List String}

theorem nil : FirstOccurrences [] [] := ⟨fun _ => Iff.rfl, .nil⟩

/-- Behind one more member the members before keep their places. -/
theorem order_append (h : FirstOccurrences all kept) (a : String) :
    kept.Pairwise fun b c => (all ++ [a]).idxOf b < (all ++ [a]).idxOf c := by
  refine h.order.imp_of_mem fun hb hc hlt => ?_
  rw [List.idxOf_append_of_mem ((h.mem_iff _).mp hb), List.idxOf_append_of_mem ((h.mem_iff _).mp hc)]
  exact hlt

/-- A member that is there already is not kept again. -/
theorem append_of_mem (h : FirstOccurrences all kept) {a : String} (ha : a ∈ kept) :
    FirstOccurrences (all ++ [a]) kept := by
  refine ⟨fun b => ?_, h.order_append a⟩
  rw [List.mem_append, List.mem_singleton, h.mem_iff]
  constructor
  · exact Or.inl
  · rintro (hb | rfl)
    · exact hb
    · exact (h.mem_iff _).mp ha

/-- A new member is kept at the end. -/
theorem append_of_not_mem (h : FirstOccurrences all kept) {a : String} (ha : a ∉ kept) :
    FirstOccurrences (all ++ [a]) (kept ++ [a]) := by
  have hnew : a ∉ all := fun hmem => ha ((h.mem_iff a).mpr hmem)
  refine ⟨fun b => by simp [h.mem_iff], ?_⟩
  rw [List.pairwise_append]
  refine ⟨h.order_append a, List.pairwise_singleton _ _, fun b hb c hc => ?_⟩
  have hb : b ∈ all := (h.mem_iff b).mp hb
  have hlt := List.idxOf_lt_length_of_mem hb
  rw [List.mem_singleton.mp hc, List.idxOf_append_of_mem hb, List.idxOf_append_of_notMem hnew]
  omega

end FirstOccurrences

theorem nodup_of_idxOf_lt {all kept : List String}
    (h : kept.Pairwise fun a b => all.idxOf a < all.idxOf b) : kept.Nodup := by
  refine h.imp fun hlt heq => ?_
  rw [heq] at hlt
  omega

/-- The order and the members determine such a list. -/
theorem eq_of_idxOf_lt {all l l' : List String}
    (h : l.Pairwise fun a b => all.idxOf a < all.idxOf b)
    (h' : l'.Pairwise fun a b => all.idxOf a < all.idxOf b) (hmem : ∀ a, a ∈ l ↔ a ∈ l') :
    l = l' := by
  have hperm : l.Perm l' :=
    (List.perm_ext_iff_of_nodup (nodup_of_idxOf_lt h) (nodup_of_idxOf_lt h')).mpr hmem
  refine hperm.eq_of_pairwise (fun a b _ _ hab hba => ?_) h h'
  omega

end ContractLens
