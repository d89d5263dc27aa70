import ContractLens.Proofs.SignatureCache

/-!
# The events that are left of an interface description

Of an interface description everything but the events is left, and behind it the events at certain
places: those whose layout hash no event before them has. One event more at the end is kept or left
out by the hashes of the events before it, so the induction takes the fragments from the end.

* `LayoutsCollide`: the layouts of two events are different texts with the same hash.
* `keptPlaces`: the places of the events that are kept.
* `filterMap_keptPlaces`: what is kept are the events at these places.
* `Represents`: places of events with layouts of their own, to which every layout has come when it
  occurs.
* `dedupeEvents_represents`: what is left of an interface description, with any table.
-/

namespace ContractLens.Abi

/-! ## Layouts with the same hash -/

/-- The layouts of two fragments are different texts with the same hash. -/
def LayoutsCollide (f g : Fragment) : Prop :=
  ∃ text text', f.layoutText? = some text ∧ g.layoutText? = some text' ∧
    Keccak.Collides text text'

theorem layoutText?_of_name {f : Fragment} {name : String} (h : f.name? = some name) :
    f.layoutText? =
      some (layoutText (signatureText name f.inputs) (f.inputs.map Param.isIndexed)) := by
  rw [Fragment.layoutText?, canonicalSignature?_of_name h]
  rfl

variable {f g : Fragment}

/-- Events with the same layout have the same layout hash. -/
theorem SameLayout.layoutHash_eq (h : SameLayout f g) (hf : f.isEvent = true)
    (hg : g.isEvent = true) :
    (Signature.ofFragment f).layoutHash = (Signature.ofFragment g).layoutHash := by
  simp only [Signature.ofFragment, hf, hg, if_true, h.1, h.2]

/-- Named events with the same layout hash have the same layout, or their layouts collide. -/
theorem sameLayout_or_collide (hf : f.isEvent = true) (hg : g.isEvent = true)
    (hfname : f.name?.isSome = true) (hgname : g.name?.isSome = true)
    (h : (Signature.ofFragment f).layoutHash = (Signature.ofFragment g).layoutHash) :
    SameLayout f g ∨ LayoutsCollide f g := by
  obtain ⟨name, hname⟩ := Option.isSome_iff_exists.mp hfname
  obtain ⟨name', hname'⟩ := Option.isSome_iff_exists.mp hgname
  rw [ofFragment_event hf hname, ofFragment_event hg hname'] at h
  rcases Keccak.keccak256Hex_eq_iff.mp (Option.some.inj h) with heq | hcollide
  · exact Or.inl ((layoutText_eq_iff hname hname').mp heq)
  · exact Or.inr ⟨_, _, layoutText?_of_name hname, layoutText?_of_name hname', hcollide⟩

/-! ## Places -/

variable {t : SignatureTable} {fragments : List Fragment} {i j : ℕ} {e : Fragment}

/-- The layout hashes of the events among the fragments. -/
def layoutHashes (t : SignatureTable) (fragments : List Fragment) : List (Option String) :=
  (fragments.filter (·.isEvent)).map (layoutOf t)

/-- The place of an event whose layout hash no event before it has. -/
def isKeptPlace (t : SignatureTable) (fragments : List Fragment) (i : ℕ) : Bool :=
  fragments[i]?.any fun e =>
    e.isEvent && decide (layoutOf t e ∉ layoutHashes t (fragments.take i))

/-- The places of the events that are kept. -/
def keptPlaces (t : SignatureTable) (fragments : List Fragment) : List ℕ :=
  (List.range fragments.length).filter (isKeptPlace t fragments)

theorem mem_layoutHashes {hash : Option String} :
    hash ∈ layoutHashes t (fragments.take i) ↔
      ∃ j < i, ∃ e, fragments[j]? = some e ∧ e.isEvent = true ∧ layoutOf t e = hash := by
  simp only [layoutHashes, List.mem_map, List.mem_filter]
  simp only [List.mem_iff_getElem?, List.getElem?_take, Option.ite_none_right_eq_some]
  constructor
  · rintro ⟨e, ⟨⟨j, hj, he⟩, hev⟩, rfl⟩
    exact ⟨j, hj, e, he, hev, rfl⟩
  · rintro ⟨j, hj, e, he, hev, rfl⟩
    exact ⟨e, ⟨⟨j, hj, he⟩, hev⟩, rfl⟩

theorem mem_keptPlaces :
    i ∈ keptPlaces t fragments ↔ ∃ e, fragments[i]? = some e ∧ e.isEvent = true ∧
      layoutOf t e ∉ layoutHashes t (fragments.take i) := by
  simp only [keptPlaces, List.mem_filter, List.mem_range, isKeptPlace, Option.any_eq_true,
    Bool.and_eq_true, decide_eq_true_iff]
  constructor
  · rintro ⟨-, e, he, hev, hnew⟩
    exact ⟨e, he, hev, hnew⟩
  · rintro ⟨e, he, hev, hnew⟩
    exact ⟨(List.getElem?_eq_some_iff.mp he).1, e, he, hev, hnew⟩

theorem isKeptPlace_append (more : List Fragment) (h : i < fragments.length) :
    isKeptPlace t (fragments ++ more) i = isKeptPlace t fragments i := by
  unfold isKeptPlace
  rw [List.getElem?_append_left h, List.take_append_of_le_length h.le]

/-- An event more at the end is kept if its layout hash is new. -/
theorem keptPlaces_append_singleton (t : SignatureTable) (fragments : List Fragment)
    (f : Fragment) :
    keptPlaces t (fragments ++ [f]) = keptPlaces t fragments ++
      if f.isEvent = true ∧ layoutOf t f ∉ layoutHashes t fragments then [fragments.length]
      else [] := by
  have hbefore : (List.range fragments.length).filter (isKeptPlace t (fragments ++ [f])) =
      keptPlaces t fragments :=
    List.filter_congr fun i hi => isKeptPlace_append [f] (List.mem_range.mp hi)
  have hlast : isKeptPlace t (fragments ++ [f]) fragments.length =
      decide (f.isEvent = true ∧ layoutOf t f ∉ layoutHashes t fragments) := by
    simp [isKeptPlace]
  rw [keptPlaces, List.length_append, List.length_singleton, List.range_succ, List.filter_append,
    hbefore, List.filter_singleton, hlast]
  by_cases h : f.isEvent = true ∧ layoutOf t f ∉ layoutHashes t fragments <;> simp [h]

/-! ## What is kept -/

theorem firstOfEachLayout_sublist (t : SignatureTable) (seen : List (Option String))
    (events : List Fragment) : (firstOfEachLayout t seen events).Sublist events := by
  induction events generalizing seen with
  | nil => exact .slnil
  | cons event rest ih =>
    rw [firstOfEachLayout_cons]
    by_cases h : layoutOf t event ∈ seen
    · rw [if_pos h]
      exact (ih seen).cons event
    · rw [if_neg h]
      exact (ih _).cons_cons event

theorem firstOfEachLayout_append_singleton (t : SignatureTable) (seen : List (Option String))
    (events : List Fragment) (event : Fragment) :
    firstOfEachLayout t seen (events ++ [event]) = firstOfEachLayout t seen events ++
      if layoutOf t event ∈ seen ++ events.map (layoutOf t) then [] else [event] := by
  induction events generalizing seen with
  | nil => simp [firstOfEachLayout_cons, firstOfEachLayout]
  | cons first events ih =>
    rw [List.cons_append, firstOfEachLayout_cons, firstOfEachLayout_cons]
    by_cases h : layoutOf t first ∈ seen
    · -- the hash of the first event is no new one
      have hsame : layoutOf t event ∈ seen ++ (first :: events).map (layoutOf t) ↔
          layoutOf t event ∈ seen ++ events.map (layoutOf t) := by
        simp only [List.mem_append, List.map_cons, List.mem_cons]
        constructor
        · rintro (hs | heq | hs)
          · exact Or.inl hs
          · exact Or.inl (heq ▸ h)
          · exact Or.inr hs
        · rintro (hs | hs)
          · exact Or.inl hs
          · exact Or.inr (Or.inr hs)
      rw [if_pos h, if_pos h, ih]
      simp only [hsame]
    · have hsame : layoutOf t event ∈ layoutOf t first :: (seen ++ events.map (layoutOf t)) ↔
          layoutOf t event ∈ seen ++ (first :: events).map (layoutOf t) := by
        simp only [List.mem_cons, List.mem_append, List.map_cons]
        exact or_left_comm
      rw [if_neg h, if_neg h, ih]
      simp only [List.cons_append, hsame]

/-- What is kept are the events at the places that are kept. -/
theorem filterMap_keptPlaces (t : SignatureTable) (fragments : List Fragment) :
    (keptPlaces t fragments).filterMap (fragments[·]?) =
      firstOfEachLayout t [] (fragments.filter (·.isEvent)) := by
  induction fragments using List.reverseRecOn with
  | nil => rfl
  | append_singleton fragments f ih =>
    have hbefore : (keptPlaces t fragments).filterMap ((fragments ++ [f])[·]?) =
        (keptPlaces t fragments).filterMap (fragments[·]?) := by
      refine List.filterMap_congr fun i hi => ?_
      obtain ⟨e, he, -⟩ := mem_keptPlaces.mp hi
      exact List.getElem?_append_left (List.getElem?_eq_some_iff.mp he).1
    rw [keptPlaces_append_singleton, List.filterMap_append, hbefore, ih, List.filter_append,
      List.filter_singleton]
    cases hf : f.isEvent with
    | false => simp
    | true =>
      rw [cond_true, firstOfEachLayout_append_singleton, List.nil_append, ← layoutHashes]
      by_cases hnew : layoutOf t f ∈ layoutHashes t fragments
      · simp [hnew]
      · simp [hnew]

/-! ## Layouts that are represented -/

/-- Ascending places of events no two of which have the same layout. At each event's place, or
    before it, there is one with its layout, unless two layouts collide. -/
structure Represents (fragments : List Fragment) (places : List ℕ) : Prop where
  ascending : places.Pairwise (· < ·)
  isEvent : ∀ i ∈ places, ∃ e, fragments[i]? = some e ∧ e.isEvent = true
  distinct : ∀ i ∈ places, ∀ j ∈ places, i < j → ∀ e f, fragments[i]? = some e →
    fragments[j]? = some f → ¬ SameLayout e f
  covers : ∀ j e, fragments[j]? = some e → e.isEvent = true →
    ∃ i ∈ places, i ≤ j ∧ ∃ k, fragments[i]? = some k ∧ (SameLayout k e ∨ LayoutsCollide k e)

/-- The layout hash of an event has a place that is kept, at its own place or before it. -/
theorem exists_mem_keptPlaces (he : fragments[j]? = some e) (hev : e.isEvent = true) :
    ∃ i ∈ keptPlaces t fragments, i ≤ j ∧
      ∃ k, fragments[i]? = some k ∧ layoutOf t k = layoutOf t e := by
  induction j using Nat.strong_induction_on generalizing e with
  | _ j ih =>
    by_cases hnew : layoutOf t e ∈ layoutHashes t (fragments.take j)
    · obtain ⟨m, hm, f, hf, hfe, hhash⟩ := mem_layoutHashes.mp hnew
      obtain ⟨i, hi, hle, k, hk, hkhash⟩ := ih m hm hf hfe
      exact ⟨i, hi, by omega, k, hk, hkhash.trans hhash⟩
    · exact ⟨j, mem_keptPlaces.mpr ⟨e, he, hev, hnew⟩, le_rfl, e, he, rfl⟩

/-- The places that are kept represent the layouts of named events. -/
theorem represents_keptPlaces (ht : t.Faithful)
    (hnamed : ∀ e ∈ fragments, e.isEvent = true → e.name?.isSome = true) :
    Represents fragments (keptPlaces t fragments) where
  ascending := List.pairwise_lt_range.filter _
  isEvent := by
    intro i hi
    obtain ⟨e, he, hev, -⟩ := mem_keptPlaces.mp hi
    exact ⟨e, he, hev⟩
  distinct := by
    intro i hi j hj hlt e f he hf hsame
    obtain ⟨e', he', heev, -⟩ := mem_keptPlaces.mp hi
    obtain ⟨f', hf', hfev, hnew⟩ := mem_keptPlaces.mp hj
    obtain rfl := Option.some.inj (he.symm.trans he')
    obtain rfl := Option.some.inj (hf.symm.trans hf')
    apply hnew
    refine mem_layoutHashes.mpr ⟨i, hlt, e, he, heev, ?_⟩
    rw [layoutOf, layoutOf, ht.signature_eq, ht.signature_eq]
    exact hsame.layoutHash_eq heev hfev
  covers := by
    intro j e he hev
    obtain ⟨i, hi, hle, k, hk, hhash⟩ := exists_mem_keptPlaces (t := t) he hev
    obtain ⟨k', hk', hkev, -⟩ := mem_keptPlaces.mp hi
    obtain rfl := Option.some.inj (hk.symm.trans hk')
    rw [layoutOf, layoutOf, ht.signature_eq, ht.signature_eq] at hhash
    refine ⟨i, hi, hle, k, hk, sameLayout_or_collide hkev hev ?_ ?_ hhash⟩
    · exact hnamed k (List.mem_of_getElem? hk) hkev
    · exact hnamed e (List.mem_of_getElem? he) hev

/-- With a table that has grown by any annotations, all fragments that are no events are left of an
    interface description with named events, in their order, and behind them events in theirs: those
    at places that represent all layouts. Once more, with whatever table, nothing is left out. -/
theorem dedupeEvents_represents (annotations : List (List Fragment × Bool))
    {fragments : List Fragment}
    (hnamed : ∀ e ∈ fragments, e.isEvent = true → e.name?.isSome = true) :
    ∃ kept places,
      dedupeEvents fragments (.ofAnnotations annotations) =
        fragments.filter (!·.isEvent) ++ kept ∧
      kept.Sublist (fragments.filter (·.isEvent)) ∧
      kept = places.filterMap (fragments[·]?) ∧ Represents fragments places ∧
      ∀ more, dedupeEvents (dedupeEvents fragments (.ofAnnotations annotations))
          (.ofAnnotations more) = dedupeEvents fragments (.ofAnnotations annotations) := by
  have ht := (SignatureTable.caches_ofAnnotations annotations).faithful
  refine ⟨_, keptPlaces (.ofAnnotations annotations) fragments, rfl,
    firstOfEachLayout_sublist _ _ _, (filterMap_keptPlaces _ _).symm,
    represents_keptPlaces ht hnamed, ?_⟩
  intro more
  have hsame := (SignatureTable.caches_ofAnnotations more).faithful.signature_eq_signature ht
  rw [dedupeEvents_congr hsame, dedupeEvents_idem]

/-- A function and three transfers, the last of which is like the first. -/
def transfers : List Fragment :=
  [.ofFunction "name" [] [], transferEvent true, transferEvent false, transferEvent true]

theorem not_layoutsCollide_transferEvent :
    ¬ LayoutsCollide (transferEvent true) (transferEvent false) := by
  rintro ⟨text, text', htext, htext', -, hhash⟩
  have hbytes : (transferEvent true).layoutText?.map Keccak.firstByte ≠
      (transferEvent false).layoutText?.map Keccak.firstByte := by
    decide +kernel
  apply hbytes
  rw [htext, htext', Option.map_some, Option.map_some, Keccak.firstByte_eq, Keccak.firstByte_eq,
    hhash]

/-- Of three transfers the last one is left out. -/
theorem dedupeEvents_transfers :
    (∀ e ∈ transfers, e.isEvent = true → e.name?.isSome = true) ∧
      dedupeEvents transfers (.ofAnnotations [(transfers, false), (transfers, true)]) =
        [.ofFunction "name" [] [], transferEvent true, transferEvent false] := by
  have hnamed : ∀ e ∈ transfers, e.isEvent = true → e.name?.isSome = true := by decide
  refine ⟨hnamed, ?_⟩
  obtain ⟨kept, places, hkept, -, hplaces, hrep, -⟩ :=
    dedupeEvents_represents [(transfers, false), (transfers, true)] hnamed
  have hbound : ∀ i ∈ places, i = 1 ∨ i = 2 ∨ i = 3 := by
    intro i hi
    obtain ⟨e, he, hev⟩ := hrep.isEvent i hi
    match i with
    | 0 => cases he; cases hev
    | 1 | 2 | 3 => omega
    | i + 4 => cases he
  have hone : 1 ∈ places := by
    obtain ⟨i, hi, hle, -⟩ := hrep.covers 1 (transferEvent true) rfl rfl
    rcases hbound i hi with rfl | rfl | rfl
    · exact hi
    · omega
    · omega
  have htwo : 2 ∈ places := by
    obtain ⟨i, hi, hle, k, hk, hlayout⟩ := hrep.covers 2 (transferEvent false) rfl rfl
    rcases hbound i hi with rfl | rfl | rfl
    · cases hk
      rcases hlayout with hsame | hcollide
      · exact absurd hsame (by decide)
      · exact absurd hcollide not_layoutsCollide_transferEvent
    · exact hi
    · omega
  have hthree : 3 ∉ places := by
    intro hi
    exact hrep.distinct 1 hone 3 hi (by omega) _ _ rfl rfl ⟨rfl, rfl⟩
  have hall : places = [1, 2] := by
    have hperm : places.Perm [1, 2] := by
      refine (List.perm_ext_iff_of_nodup (hrep.ascending.imp ne_of_lt) (by decide)).mpr ?_
      intro i
      constructor
      · intro hi
        rcases hbound i hi with rfl | rfl | rfl
        · simp
        · simp
        · exact absurd hi hthree
      · intro hi
        rcases List.mem_pair.mp hi with rfl | rfl
        · exact hone
        · exact htwo
    exact hperm.eq_of_pairwise (fun a b _ _ hab hba => by omega) hrep.ascending (by decide)
  rw [hkept, hplaces, hall]
  rfl

end ContractLens.Abi
