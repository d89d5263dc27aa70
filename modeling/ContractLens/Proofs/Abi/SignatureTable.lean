import ContractLens.Abi.SignatureTable
import Mathlib.Tactic

/-!
# Signature tables and distinct layouts

A table that is filled by `annotate` holds for each fragment the signature that would be worked out
for it, so it never matters which table is used.

* `Faithful.signature_eq`: the signature that such a table gives for any fragment.
* `mem_firstOfEachLayout_iff`: an event is kept if no event before it has its layout hash.
* `filter_function_dedupeEvents`: the functions stay in their order.
* `dedupeEvents_idem`: keeping the first event of each layout a second time changes nothing.
-/

namespace ContractLens.Abi

namespace SignatureTable

/-! ## Faithful tables -/

/-- Every entry is the signature of its fragment. -/
def Faithful (t : SignatureTable) : Prop := ∀ e ∈ t.entries, e.2 = Signature.ofFragment e.1

theorem faithful_empty : empty.Faithful := fun _ h => absurd h List.not_mem_nil

theorem Faithful.insert {t : SignatureTable} (h : t.Faithful) (f : Fragment) :
    (t.insert f).Faithful := by
  intro e he
  rcases List.mem_cons.mp he with rfl | he
  · rfl
  · exact h e (List.mem_of_mem_filter he)

theorem Faithful.annotate {t : SignatureTable} (h : t.Faithful) (fragments : List Fragment)
    (skip : Bool) : (t.annotate fragments skip).Faithful := by
  unfold SignatureTable.annotate
  induction fragments generalizing t with
  | nil => exact h
  | cons f fragments ih =>
    rw [List.foldl_cons]
    split_ifs
    · exact ih h
    · exact ih (h.insert f)

theorem faithful_ofFragments (fragments : List Fragment) : (ofFragments fragments).Faithful :=
  faithful_empty.annotate fragments false

theorem Faithful.signature_eq {t : SignatureTable} (h : t.Faithful) (f : Fragment) :
    t.signature f = Signature.ofFragment f := by
  unfold signature get?
  cases hf : t.entries.lookup f with
  | none => rfl
  | some s =>
    obtain ⟨before, after, hentries, -⟩ := List.lookup_eq_some_iff.mp hf
    exact h (f, s) (by simp [hentries])

end SignatureTable

/-! ## The first event of each layout -/

/-- The layout hash of a fragment. -/
def layoutOf (t : SignatureTable) (f : Fragment) : Option String := (t.signature f).layoutHash

theorem firstOfEachLayout_cons (t : SignatureTable) (seen : List (Option String)) (event : Fragment)
    (rest : List Fragment) :
    firstOfEachLayout t seen (event :: rest) =
      if layoutOf t event ∈ seen then firstOfEachLayout t seen rest
      else event :: firstOfEachLayout t (layoutOf t event :: seen) rest := by
  rw [firstOfEachLayout]
  by_cases h : layoutOf t event ∈ seen
  · rw [if_pos h]
    exact if_pos (List.contains_iff_mem.mpr h)
  · rw [if_neg h]
    exact if_neg fun hc => h (List.contains_iff_mem.mp hc)

/-- An event is kept if its layout hash was not seen before and it is the first with this hash. -/
theorem mem_firstOfEachLayout_iff (t : SignatureTable) (seen : List (Option String))
    (events : List Fragment) (e : Fragment) :
    e ∈ firstOfEachLayout t seen events ↔
      layoutOf t e ∉ seen ∧ events.find? (layoutOf t · == layoutOf t e) = some e := by
  induction events generalizing seen with
  | nil => simp [firstOfEachLayout]
  | cons event rest ih =>
    rw [firstOfEachLayout_cons, List.find?_cons]
    by_cases hseen : layoutOf t event ∈ seen
    · -- the event is dropped, and it is none that `e` could be
      rw [if_pos hseen, ih]
      refine and_congr_right fun he => ?_
      have hne : (layoutOf t event == layoutOf t e) = false :=
        beq_eq_false_iff_ne.mpr fun heq => he (heq ▸ hseen)
      rw [hne]
    · rw [if_neg hseen, List.mem_cons, ih]
      by_cases heq : layoutOf t event = layoutOf t e
      · rw [beq_iff_eq.mpr heq]
        constructor
        · rintro (rfl | ⟨hmem, -⟩)
          · exact ⟨hseen, rfl⟩
          · exact absurd (heq ▸ List.mem_cons_self ..) hmem
        · rintro ⟨-, h⟩
          exact Or.inl (Option.some.inj h).symm
      · rw [beq_eq_false_iff_ne.mpr heq]
        constructor
        · rintro (rfl | ⟨hmem, hfind⟩)
          · exact absurd rfl heq
          · exact ⟨fun h => hmem (List.mem_cons_of_mem _ h), hfind⟩
        · rintro ⟨hmem, hfind⟩
          refine Or.inr ⟨fun h => ?_, hfind⟩
          rcases List.mem_cons.mp h with h | h
          · exact heq h.symm
          · exact hmem h

theorem firstOfEachLayout_idem (t : SignatureTable) (seen : List (Option String))
    (events : List Fragment) :
    firstOfEachLayout t seen (firstOfEachLayout t seen events) =
      firstOfEachLayout t seen events := by
  induction events generalizing seen with
  | nil => rfl
  | cons event rest ih =>
    rw [firstOfEachLayout_cons]
    split_ifs with h
    · exact ih seen
    · rw [firstOfEachLayout_cons, if_neg h, ih]

/-- Events with layouts of their own at the start of a list are all kept. -/
theorem firstOfEachLayout_append {t : SignatureTable} {seen : List (Option String)}
    {front : List Fragment} (hnodup : (front.map (layoutOf t)).Nodup)
    (hseen : ∀ e ∈ front, layoutOf t e ∉ seen) (rest : List Fragment) :
    ∃ seen', firstOfEachLayout t seen (front ++ rest) =
      front ++ firstOfEachLayout t seen' rest := by
  induction front generalizing seen with
  | nil => exact ⟨seen, rfl⟩
  | cons e front ih =>
    obtain ⟨he, hfront⟩ := List.forall_mem_cons.mp hseen
    rw [List.map_cons, List.nodup_cons] at hnodup
    have hnext : ∀ e' ∈ front, layoutOf t e' ∉ layoutOf t e :: seen := by
      intro e' he' hmem
      obtain heq | hmem := List.mem_cons.mp hmem
      · exact hnodup.1 (heq ▸ List.mem_map_of_mem he')
      · exact hfront e' he' hmem
    obtain ⟨seen', hkept⟩ := ih hnodup.2 hnext
    exact ⟨seen', by rw [List.cons_append, firstOfEachLayout_cons, if_neg he, hkept,
      List.cons_append]⟩

theorem mem_of_mem_firstOfEachLayout {t : SignatureTable} {seen : List (Option String)}
    {events : List Fragment} {e : Fragment} (h : e ∈ firstOfEachLayout t seen events) :
    e ∈ events :=
  List.mem_of_find?_eq_some ((mem_firstOfEachLayout_iff t seen events e).mp h).2

/-! ## Events without repeated layouts -/

theorem mem_dedupeEvents_iff_of_event {t : SignatureTable} {fragments : List Fragment}
    {e : Fragment} (he : e.isEvent = true) :
    e ∈ dedupeEvents fragments t ↔
      (fragments.filter (·.isEvent)).find? (layoutOf t · == layoutOf t e) = some e := by
  rw [dedupeEvents, List.mem_append, mem_firstOfEachLayout_iff]
  simp [he]

theorem mem_of_mem_dedupeEvents {t : SignatureTable} {fragments : List Fragment} {f : Fragment}
    (h : f ∈ dedupeEvents fragments t) : f ∈ fragments := by
  rcases List.mem_append.mp h with h | h
  · exact List.mem_of_mem_filter h
  · exact List.mem_of_mem_filter (mem_of_mem_firstOfEachLayout h)

theorem filter_event_dedupeEvents (fragments : List Fragment) (t : SignatureTable) :
    (dedupeEvents fragments t).filter (·.isEvent) =
      firstOfEachLayout t [] (fragments.filter (·.isEvent)) := by
  rw [dedupeEvents, List.filter_append, List.filter_filter]
  have hkept : ∀ e ∈ firstOfEachLayout t [] (fragments.filter (·.isEvent)), e.isEvent = true :=
    fun e he => (List.mem_filter.mp (mem_of_mem_firstOfEachLayout he)).2
  rw [List.filter_eq_self.mpr hkept]
  simp

theorem filter_notEvent_dedupeEvents (fragments : List Fragment) (t : SignatureTable) :
    (dedupeEvents fragments t).filter (!·.isEvent) = fragments.filter (!·.isEvent) := by
  rw [dedupeEvents, List.filter_append, List.filter_filter]
  have hkept : ∀ e ∈ firstOfEachLayout t [] (fragments.filter (·.isEvent)),
      ¬ (!e.isEvent) = true := fun e he => by
    simp [(List.mem_filter.mp (mem_of_mem_firstOfEachLayout he)).2]
  rw [List.filter_eq_nil_iff.mpr hkept]
  simp

/-- The functions stay as they are, in their order. -/
theorem filter_function_dedupeEvents (fragments : List Fragment) (t : SignatureTable) :
    (dedupeEvents fragments t).filter (·.isFunction) = fragments.filter (·.isFunction) := by
  have hfunctions : ∀ fs : List Fragment,
      (fs.filter (!·.isEvent)).filter (·.isFunction) = fs.filter (·.isFunction) := by
    intro fs
    rw [List.filter_filter]
    refine List.filter_congr fun f _ => ?_
    cases hkind : f.kind <;> simp [Fragment.isFunction, Fragment.isEvent, hkind]
  rw [← hfunctions (dedupeEvents _ _), filter_notEvent_dedupeEvents, hfunctions]

/-- Keeping the first event of each layout a second time changes nothing. -/
theorem dedupeEvents_idem (fragments : List Fragment) (t : SignatureTable) :
    dedupeEvents (dedupeEvents fragments t) t = dedupeEvents fragments t := by
  rw [dedupeEvents, filter_event_dedupeEvents, filter_notEvent_dedupeEvents,
    firstOfEachLayout_idem, ← dedupeEvents]

end ContractLens.Abi
