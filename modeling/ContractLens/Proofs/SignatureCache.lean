import ContractLens.Proofs.EventTable
import Mathlib.Data.List.Dedup

/-!
# Signature tables as caches

A table that has grown by any annotations, whether they skipped fragments it had already or worked
them out again, holds exactly the fragments that were annotated, each once and with its signature.
What is worked out with a table depends on nothing but the signatures that it gives, and these are
always the same.

* `SignatureTable.Caches`: a table holds the signatures of these fragments and no others.
* `Caches.insert`, `Caches.annotate`: a step keeps this.
* `caches_ofAnnotations`: so it holds after any annotations.
* `dedupeEvents_congr`, `functionSelectors_congr`, `EventDecoder.ofTable_congr`: tables that give
  the same signatures are as good as each other.
* `ofAnnotations_transparent`: which table is used never matters.
-/

namespace ContractLens

open Abi

namespace Abi.SignatureTable

/-! ## What a table holds -/

/-- A table holds these fragments, each once and with its signature, and no others. -/
structure Caches (t : SignatureTable) (fragments : List Fragment) : Prop where
  faithful : t.Faithful
  nodup : (t.entries.map (·.1)).Nodup
  mem_iff : ∀ f, f ∈ t.entries.map (·.1) ↔ f ∈ fragments

variable {t : SignatureTable} {fragments : List Fragment}

theorem caches_empty : empty.Caches [] := ⟨faithful_empty, List.nodup_nil, fun _ => Iff.rfl⟩

theorem map_entries_insert (t : SignatureTable) (f : Fragment) :
    (t.insert f).entries.map (·.1) = f :: (t.entries.map (·.1)).filter (· ≠ f) := by
  rw [insert, List.map_cons, List.filter_map]
  rfl

/-- An entry that is put in comes instead of an older one. -/
theorem Caches.insert (h : t.Caches fragments) (f : Fragment) :
    (t.insert f).Caches (fragments ++ [f]) := by
  refine ⟨h.faithful.insert f, ?_, fun g => ?_⟩
  · rw [map_entries_insert]
    exact List.nodup_cons.mpr ⟨by simp, h.nodup.filter _⟩
  · rw [map_entries_insert, List.mem_cons, List.mem_filter, h.mem_iff, List.mem_append,
      List.mem_singleton, decide_eq_true_iff]
    by_cases hg : g = f
    · simp [hg]
    · simp [hg]

/-- The entry of a fragment is its signature, if there is one. -/
theorem Caches.get?_eq (h : t.Caches fragments) (f : Fragment) :
    t.get? f = if f ∈ fragments then some (Signature.ofFragment f) else none := by
  rw [get?]
  cases hfound : t.entries.lookup f with
  | none =>
    have habsent : f ∉ t.entries.map (·.1) := by
      intro hf
      obtain ⟨entry, hentry, rfl⟩ := List.mem_map.mp hf
      have hne := List.lookup_eq_none_iff.mp hfound entry hentry
      simp at hne
    rw [if_neg (mt (h.mem_iff f).mpr habsent)]
  | some s =>
    obtain ⟨before, after, hentries, -⟩ := List.lookup_eq_some_iff.mp hfound
    have hentry : (f, s) ∈ t.entries := by simp [hentries]
    rw [if_pos ((h.mem_iff f).mp (List.mem_map_of_mem hentry))]
    exact congrArg some (h.faithful _ hentry)

/-- A table is as large as the number of different fragments in it. -/
theorem Caches.size_eq (h : t.Caches fragments) : t.size = fragments.dedup.length := by
  have hperm : (t.entries.map (·.1)).Perm fragments.dedup :=
    (List.perm_ext_iff_of_nodup h.nodup fragments.nodup_dedup).mpr fun f => by
      rw [h.mem_iff, List.mem_dedup]
  rw [size, ← List.length_map (f := (·.1)), hperm.length_eq]

/-! ## Annotations -/

/-- All fragments of an annotation are in the table afterwards, whether those that it had are
    skipped or not. -/
theorem Caches.annotate (h : t.Caches fragments) (more : List Fragment) (skip : Bool) :
    (t.annotate more skip).Caches (fragments ++ more) := by
  unfold SignatureTable.annotate
  induction more generalizing t fragments with
  | nil => simpa using h
  | cons f more ih =>
    rw [List.foldl_cons, List.append_cons]
    split_ifs with hskip
    · -- the table stays as it is, since the fragment is one of those that it has
      have hpresent : f ∈ fragments := by
        by_contra hf
        rw [h.get?_eq, if_neg hf] at hskip
        simp at hskip
      refine ih ⟨h.faithful, h.nodup, fun g => ?_⟩
      rw [h.mem_iff, List.mem_append, List.mem_singleton]
      exact ⟨Or.inl, fun hg => hg.elim id fun hg => hg ▸ hpresent⟩
    · exact ih (h.insert f)

/-- The table after annotations of an empty one. With each stands whether it skips the fragments
    that the table has already. -/
def ofAnnotations (annotations : List (List Fragment × Bool)) : SignatureTable :=
  annotations.foldl (fun t a => t.annotate a.1 a.2) empty

theorem Caches.foldl_annotate (h : t.Caches fragments)
    (annotations : List (List Fragment × Bool)) :
    (annotations.foldl (fun t a => t.annotate a.1 a.2) t).Caches
      (fragments ++ annotations.flatMap (·.1)) := by
  induction annotations generalizing t fragments with
  | nil => simpa using h
  | cons a annotations ih =>
    rw [List.foldl_cons, List.flatMap_cons, ← List.append_assoc]
    exact ih (h.annotate a.1 a.2)

/-- Annotations leave a table with exactly the fragments that were annotated. -/
theorem caches_ofAnnotations (annotations : List (List Fragment × Bool)) :
    (ofAnnotations annotations).Caches (annotations.flatMap (·.1)) :=
  caches_empty.foldl_annotate annotations

end Abi.SignatureTable

/-! ## What is worked out with a table -/

section

variable {t t' : SignatureTable}

theorem Abi.firstOfEachLayout_congr (h : t.signature = t'.signature) (seen : List (Option String))
    (events : List Fragment) :
    firstOfEachLayout t seen events = firstOfEachLayout t' seen events := by
  induction events generalizing seen with
  | nil => rfl
  | cons event rest ih =>
    rw [firstOfEachLayout_cons, firstOfEachLayout_cons, layoutOf, layoutOf, h, ih, ih]

theorem Abi.dedupeEvents_congr (h : t.signature = t'.signature) (fragments : List Fragment) :
    dedupeEvents fragments t = dedupeEvents fragments t' := by
  rw [dedupeEvents, dedupeEvents, firstOfEachLayout_congr h]

theorem Abi.functionSelectors_congr (h : t.signature = t'.signature) (fragments : List Fragment) :
    functionSelectors fragments t = functionSelectors fragments t' := by
  rw [functionSelectors, functionSelectors, h]

theorem EventDecoder.ofTable_congr (h : t.signature = t'.signature) (fragments : List Fragment) :
    ofTable fragments t = ofTable fragments t' := by
  have hknown : knownEvent? t = knownEvent? t' := funext fun f => by
    rw [knownEvent?, knownEvent?, h]
  rw [ofTable, ofTable, dedupeEvents_congr h, hknown]

/-- Tables in which all entries are right give the same signatures. -/
theorem Abi.SignatureTable.Faithful.signature_eq_signature (h : t.Faithful) (h' : t'.Faithful) :
    t.signature = t'.signature := funext fun f => by rw [h.signature_eq, h'.signature_eq]

end

/-- A table that has grown by any annotations gives every fragment its signature, has an entry for
    exactly the fragments that were annotated, and as many entries as these are different. So the
    events of each layout, the selectors of functions and the events by which logs are recognised
    are the same with every such table, even with one for no more than the fragments at hand. -/
theorem ofAnnotations_transparent (annotations : List (List Fragment × Bool)) :
    (∀ f, (SignatureTable.ofAnnotations annotations).signature f = Signature.ofFragment f) ∧
    (∀ f, (SignatureTable.ofAnnotations annotations).get? f =
      if f ∈ annotations.flatMap (·.1) then some (Signature.ofFragment f) else none) ∧
    (SignatureTable.ofAnnotations annotations).size = (annotations.flatMap (·.1)).dedup.length ∧
    ∀ fragments,
      dedupeEvents fragments (.ofAnnotations annotations) =
        dedupeEvents fragments (.ofFragments fragments) ∧
      functionSelectors fragments (.ofAnnotations annotations) =
        functionSelectors fragments (.ofFragments fragments) ∧
      EventDecoder.ofTable fragments (.ofAnnotations annotations) =
        EventDecoder.ofFragments fragments := by
  have hcaches := SignatureTable.caches_ofAnnotations annotations
  refine ⟨hcaches.faithful.signature_eq, hcaches.get?_eq, hcaches.size_eq, fun fragments => ?_⟩
  have hsame : (SignatureTable.ofAnnotations annotations).signature =
      (SignatureTable.ofFragments fragments).signature :=
    hcaches.faithful.signature_eq_signature (SignatureTable.faithful_ofFragments fragments)
  exact ⟨dedupeEvents_congr hsame fragments, functionSelectors_congr hsame fragments,
    EventDecoder.ofTable_congr hsame fragments⟩

end ContractLens
