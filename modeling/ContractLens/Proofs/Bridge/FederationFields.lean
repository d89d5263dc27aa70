import ContractLens.Proofs.Bridge.LegacyFields
import Mathlib.Data.List.ReduceOption

/-!
# Fields of a federation change

A change of the federation has five places for fields: the keys and the address of the old and of
the new federation, and the height. The fields that are read are those of the items that are there,
and how many there are is never checked. So the fields behind a missing item move up, and an address
may be read from keys.

* `forall₂_of_federationFields`: what the fields are.
* `exists_federationFields_iff`: when there are fields at all.
* `keepsPlaces_iff`: when no field moves.
* `inPlace_iff`: when the fields are those of a complete federation change.
* `federationFields_encode`: the fields of an encoded one.
-/

namespace ContractLens

/-! ## Lists with missing members -/

section Missing

variable {α : Type} {l : List (Option α)}

/-- No member stands behind a missing one. -/
def EndsMissing (l : List (Option α)) : Prop := l.Pairwise fun a b => b.isSome → a.isSome

theorem endsMissing_none_cons : EndsMissing (none :: l) ↔ l.reduceOption = [] := by
  rw [EndsMissing, List.pairwise_cons, List.reduceOption_eq_nil_iff]
  constructor
  · rintro ⟨hnone, -⟩
    refine ⟨l.length, List.eq_replicate_iff.mpr ⟨rfl, fun b hb => ?_⟩⟩
    cases b with
    | none => rfl
    | some a => cases hnone _ hb rfl
  · rintro ⟨n, rfl⟩
    refine ⟨fun b hb => ?_, List.pairwise_replicate.mpr (.inr id)⟩
    rw [List.eq_of_mem_replicate hb]
    exact nofun

theorem endsMissing_some_cons {a : α} : EndsMissing (some a :: l) ↔ EndsMissing l := by
  rw [EndsMissing, List.pairwise_cons]
  exact and_iff_right fun _ _ _ => rfl

/-- The members that are there keep their places if none stands behind a missing one. -/
theorem getElem?_of_endsMissing (h : EndsMissing l) {k : ℕ} {a : α}
    (ha : l.reduceOption[k]? = some a) : l[k]? = some (some a) := by
  induction l generalizing k with
  | nil => cases ha
  | cons head l ih =>
    cases head with
    | none =>
      rw [List.reduceOption_cons_of_none, endsMissing_none_cons.mp h] at ha
      cases ha
    | some b =>
      rw [List.reduceOption_cons_of_some] at ha
      cases k with
      | zero => exact congrArg some ha
      | succ k => exact ih (endsMissing_some_cons.mp h) ha

/-- If as many members are there at the start as there are at all, none stands behind a missing
    one. -/
theorem endsMissing_of_getElem?
    (h : ∀ k < l.reduceOption.length, ∃ a, l[k]? = some (some a)) : EndsMissing l := by
  induction l with
  | nil => exact .nil
  | cons head l ih =>
    cases head with
    | none =>
      rw [List.reduceOption_cons_of_none] at h
      rw [endsMissing_none_cons]
      by_contra hne
      obtain ⟨a, ha⟩ := h 0 (List.length_pos_iff.mpr hne)
      cases ha
    | some b =>
      rw [List.reduceOption_cons_of_some] at h
      exact endsMissing_some_cons.mpr (ih fun k hk => h (k + 1) (Nat.succ_lt_succ hk))

end Missing

theorem take_two_eq_reduceOption {α : Type} (l : List α) :
    l.take 2 = [l[0]?, l[1]?].reduceOption := by
  rcases l with _ | ⟨a, _ | ⟨b, l⟩⟩ <;> rfl

namespace Bridge

open Rlp (Item IsItem HasItems)

variable {data : String} {raw part field : List UInt8} {fields : List (List UInt8)}

/-! ## Fields of slices -/

/-- What the field of an item in a slice is. -/
def IsSliceField (part field : List UInt8) : Prop :=
  if Rlp.isList part then field = part
  else ∃ raw, Rlp.payload part = .ok raw ∧ IsField (.bytes raw) field

theorem isSliceField_of_fieldBytes (h : fieldBytes part = .ok field) : IsSliceField part field := by
  rw [fieldBytes] at h
  rw [IsSliceField]
  split_ifs at h ⊢
  · exact (Except.ok.inj h).symm
  · cases hpayload : Rlp.payload part with
    | error fault =>
      rw [hpayload] at h
      cases h
    | ok raw =>
      rw [hpayload] at h
      exact ⟨raw, rfl, isField_iff.mpr (Except.ok.inj h)⟩

theorem forall₂_of_mapM_fieldBytes {parts : List (List UInt8)}
    (h : parts.mapM fieldBytes = .ok fields) : List.Forall₂ IsSliceField parts fields :=
  (forall₂_of_mapM h).imp fun _ _ => isSliceField_of_fieldBytes

/-! ## Fields of federations -/

theorem federationEntry_of_isList (h : Rlp.isList part = true) :
    federationEntry part = ((Rlp.elements part).take 2).mapM fieldBytes := by
  rw [federationEntry, if_pos h]

theorem forall₂_of_federationEntry (h : federationEntry part = .ok fields) :
    Rlp.isList part = true ∧ List.Forall₂ IsSliceField ((Rlp.elements part).take 2) fields := by
  cases hlist : Rlp.isList part with
  | false =>
    rw [federationEntry, hlist, if_neg Bool.false_ne_true] at h
    cases h
  | true =>
    rw [federationEntry_of_isList hlist] at h
    exact ⟨rfl, forall₂_of_mapM_fieldBytes h⟩

theorem forall₂_of_mapM_federationEntry {parts : List (List UInt8)}
    {entries : List (List (List UInt8))} (h : parts.mapM federationEntry = .ok entries) :
    (∀ part ∈ parts, Rlp.isList part = true) ∧
      List.Forall₂ IsSliceField (parts.flatMap fun part => (Rlp.elements part).take 2)
        entries.flatten := by
  have hentries := forall₂_of_mapM h
  clear h
  induction hentries with
  | nil => exact ⟨nofun, .nil⟩
  | cons hentry _ ih =>
    obtain ⟨hlist, hfields⟩ := forall₂_of_federationEntry hentry
    rw [List.flatMap_cons, List.flatten_cons]
    exact ⟨List.forall_mem_cons.mpr ⟨hlist, ih.1⟩, List.rel_append hfields ih.2⟩

theorem exists_mapM_federationEntry {parts : List (List UInt8)}
    (h : ∀ part ∈ parts, Rlp.isList part = true) :
    ∃ entries, parts.mapM federationEntry = .ok entries := by
  refine exists_mapM_eq_ok fun part hpart => ?_
  rw [federationEntry_of_isList (h part hpart)]
  exact exists_mapM_fieldBytes fun item hitem =>
    Rlp.isItem_of_mem_elements (List.mem_of_mem_take hitem)

/-! ## Fields of a payload -/

/-- The fields of a list are those of its federations and that of the height. -/
theorem federationFields_of_isList (hraw : decodeHex data = .ok raw)
    (hlist : Rlp.isList raw = true) : federationFields data = do
      let entries ← ((Rlp.elements raw).take 2).mapM federationEntry
      let height ← (Rlp.elementsAgain raw)[2]?.toList.mapM fieldBytes
      return entries.flatten ++ height := by
  have hempty : ¬raw.isEmpty = true := by
    rw [List.isEmpty_iff]
    rintro rfl
    cases hlist
  have hnot : ¬(!Rlp.isList raw) = true := by rw [hlist]; decide
  rw [federationFields, hraw, ok_bind, if_neg hempty, if_neg hnot]
  cases (Rlp.elementsAgain raw)[2]? with
  | none => simp
  | some item => simp

theorem federationFields_of_not_isList (hraw : decodeHex data = .ok raw) (hne : raw ≠ [])
    (hlist : Rlp.isList raw = false) : federationFields data = .error .federationsNotList := by
  have hempty : ¬raw.isEmpty = true := by rwa [List.isEmpty_iff]
  rw [federationFields, hraw, ok_bind, if_neg hempty, hlist]
  rfl

theorem federationFields_of_nil (hraw : decodeHex data = .ok []) :
    federationFields data = .ok [] := by
  rw [federationFields, hraw]
  rfl

/-! ## Places -/

/-- The items of a federation change at the places of their fields: keys and address of both
    federations, then the height. -/
def leaves (raw : List UInt8) : List (Option (List UInt8)) :=
  let federation (i : ℕ) := ((Rlp.elements raw)[i]?.map Rlp.elements).getD []
  [(federation 0)[0]?, (federation 0)[1]?, (federation 1)[0]?, (federation 1)[1]?,
    (Rlp.elementsAgain raw)[2]?]

theorem flatMap_take_two_append (raw : List UInt8) :
    (((Rlp.elements raw).take 2).flatMap fun part => (Rlp.elements part).take 2) ++
      (Rlp.elementsAgain raw)[2]?.toList = (leaves raw).reduceOption := by
  have hentries : (((Rlp.elements raw).take 2).flatMap fun part => (Rlp.elements part).take 2) =
      (((Rlp.elements raw)[0]?.map Rlp.elements).getD []).take 2 ++
        (((Rlp.elements raw)[1]?.map Rlp.elements).getD []).take 2 := by
    rcases Rlp.elements raw with _ | ⟨a, _ | ⟨b, parts⟩⟩ <;> simp
  rw [hentries, take_two_eq_reduceOption, take_two_eq_reduceOption, ← List.reduceOption_singleton,
    ← List.reduceOption_append, ← List.reduceOption_append]
  rfl

/-- The fields are those of the items that are there, in order. -/
theorem forall₂_of_federationFields (hraw : decodeHex data = .ok raw)
    (h : federationFields data = .ok fields) :
    List.Forall₂ IsSliceField (leaves raw).reduceOption fields := by
  cases hlist : Rlp.isList raw with
  | false =>
    obtain rfl | hne := eq_or_ne raw []
    · rw [federationFields_of_nil hraw] at h
      cases h
      exact .nil
    · rw [federationFields_of_not_isList hraw hne hlist] at h
      cases h
  | true =>
    rw [federationFields_of_isList hraw hlist, bind_eq_ok_iff] at h
    obtain ⟨entries, hentries, h⟩ := h
    obtain ⟨height, hheight, h⟩ := bind_eq_ok_iff.mp h
    cases h
    rw [← flatMap_take_two_append]
    exact List.rel_append (forall₂_of_mapM_federationEntry hentries).2
      (forall₂_of_mapM_fieldBytes hheight)

/-- The payload starts like a list, and so does each of the first two items in it. -/
def StartsWithFederations (raw : List UInt8) : Prop :=
  Rlp.isList raw = true ∧ ∀ part ∈ (Rlp.elements raw).take 2, Rlp.isList part = true

/-- There are fields exactly if the payload is empty or a list whose first two items are lists. -/
theorem exists_federationFields_iff (hraw : decodeHex data = .ok raw) :
    (∃ fields, federationFields data = .ok fields) ↔ raw = [] ∨ StartsWithFederations raw := by
  cases hlist : Rlp.isList raw with
  | false =>
    obtain rfl | hne := eq_or_ne raw []
    · exact iff_of_true ⟨_, federationFields_of_nil hraw⟩ (.inl rfl)
    · rw [federationFields_of_not_isList hraw hne hlist]
      exact iff_of_false nofun (by simp [hne, StartsWithFederations, hlist])
  | true =>
    have hne : raw ≠ [] := by
      rintro rfl
      cases hlist
    rw [federationFields_of_isList hraw hlist, or_iff_right hne, StartsWithFederations,
      and_iff_right hlist]
    constructor
    · rintro ⟨fields, hfields⟩
      obtain ⟨entries, hentries, -⟩ := bind_eq_ok_iff.mp hfields
      exact (forall₂_of_mapM_federationEntry hentries).1
    · intro hparts
      obtain ⟨entries, hentries⟩ := exists_mapM_federationEntry hparts
      obtain ⟨height, hheight⟩ : ∃ height,
          (Rlp.elementsAgain raw)[2]?.toList.mapM fieldBytes = .ok height :=
        exists_mapM_fieldBytes fun part hpart =>
          Rlp.isItem_of_mem_elementsAgain (List.mem_of_getElem? (Option.mem_toList.mp hpart))
      exact ⟨_, by rw [hentries, ok_bind, hheight]; rfl⟩

/-- Each field is the one of the item at its place. -/
def KeepsPlaces (raw : List UInt8) (fields : List (List UInt8)) : Prop :=
  ∀ (k : ℕ) (field : List UInt8), fields[k]? = some field →
    ∃ part, (leaves raw)[k]? = some (some part) ∧ IsSliceField part field

/-- No field moves exactly if no item is missing in front of one that is there. -/
theorem keepsPlaces_iff (hraw : decodeHex data = .ok raw)
    (h : federationFields data = .ok fields) :
    KeepsPlaces raw fields ↔ EndsMissing (leaves raw) := by
  have hfields := forall₂_of_federationFields hraw h
  constructor
  · refine fun hplaces => endsMissing_of_getElem? fun k hk => ?_
    rw [hfields.length_eq] at hk
    obtain ⟨part, hpart, -⟩ := hplaces k _ (List.getElem?_eq_getElem hk)
    exact ⟨part, hpart⟩
  · intro hends k field hfield
    obtain ⟨part, hpart, hpartfield⟩ := exists_getElem?_of_forall₂ hfields hfield
    exact ⟨part, getElem?_of_endsMissing hends hpart, hpartfield⟩

/-- The fields are those of a complete federation change: the payload starts with a list of two
    lists, each of which starts with two items, and of a height. -/
def InPlace (raw : List UInt8) (fields : List (List UInt8)) : Prop :=
  ∃ old new height oldKeys oldAddress newKeys newAddress,
    HasItems raw [old, new, height] ∧ HasItems old [oldKeys, oldAddress] ∧
      HasItems new [newKeys, newAddress] ∧
      List.Forall₂ IsSliceField [oldKeys, oldAddress, newKeys, newAddress, height] fields

/-- The items that the fields come from lie in the list at the start of the payload. -/
def LiesInList (raw : List UInt8) : Prop :=
  ∃ content, Rlp.payload raw = .ok content ∧ ((Rlp.elements raw).take 3).flatten <+: content

theorem hasItems_of_getElem? {k : ℕ}
    (hlists : ∀ part ∈ (Rlp.elements raw).take 2, Rlp.isList part = true) (hk : k < 2)
    {a b : List UInt8}
    (ha : (((Rlp.elements raw)[k]?.map Rlp.elements).getD [])[0]? = some a)
    (hb : (((Rlp.elements raw)[k]?.map Rlp.elements).getD [])[1]? = some b) :
    ∃ part, (Rlp.elements raw)[k]? = some part ∧ HasItems part [a, b] := by
  cases hpart : (Rlp.elements raw)[k]? with
  | none =>
    rw [hpart] at ha
    cases ha
  | some part =>
    rw [hpart, Option.map_some, Option.getD_some] at ha hb
    have hmem : part ∈ (Rlp.elements raw).take 2 :=
      List.mem_of_getElem? (by rw [List.getElem?_take_of_lt hk]; exact hpart)
    have hitem := Rlp.isItem_of_mem_elements (List.mem_of_getElem? hpart)
    have htake : (Rlp.elements part).take 2 = [a, b] := by
      rw [take_two_eq_reduceOption, ha, hb]
      rfl
    have hitems := hitem.hasItems_take (hlists part hmem) 2
    rw [htake] at hitems
    exact ⟨part, rfl, hitems⟩

/-- The fields are those of a complete federation change exactly if there are five of them and they
    come from the list, not from bytes behind it. -/
theorem inPlace_iff (hraw : decodeHex data = .ok raw)
    (h : federationFields data = .ok fields) :
    InPlace raw fields ↔ fields.length = 5 ∧ LiesInList raw := by
  have hfields := forall₂_of_federationFields hraw h
  constructor
  · rintro ⟨old, new, height, _, _, _, _, hitems, -, -, hplaces⟩
    have hprefix := hitems.prefix_elements
    obtain ⟨-, -, content, hcontent, hflatten⟩ := hitems
    refine ⟨hplaces.length_eq.symm, content, hcontent, ?_⟩
    have htake : (Rlp.elements raw).take 3 = [old, new, height] :=
      (List.prefix_iff_eq_take.mp hprefix).symm
    rwa [htake]
  · rintro ⟨hlength, content, hcontent, hprefix⟩
    -- five fields leave no place empty
    have hfive : (leaves raw).reduceOption.length = (leaves raw).length :=
      hfields.length_eq.trans hlength
    have hall := List.reduceOption_length_eq_iff.mp hfive
    simp only [leaves, List.forall_mem_cons, Option.isSome_iff_exists] at hall
    obtain ⟨⟨oldKeys, h0⟩, ⟨oldAddress, h1⟩, ⟨newKeys, h2⟩, ⟨newAddress, h3⟩, ⟨height, h4⟩, -⟩ :=
      hall
    have hleaves : leaves raw =
        [some oldKeys, some oldAddress, some newKeys, some newAddress, some height] := by
      rw [leaves, h0, h1, h2, h3, h4]
    have hne : raw ≠ [] := by
      rintro rfl
      cases h0
    obtain ⟨hlist, hlists⟩ := ((exists_federationFields_iff hraw).mp ⟨fields, h⟩).resolve_left hne
    obtain ⟨old, hold, hitemsOld⟩ := hasItems_of_getElem? hlists zero_lt_two h0 h1
    obtain ⟨new, hnew, hitemsNew⟩ := hasItems_of_getElem? hlists one_lt_two h2 h3
    rw [Rlp.elementsAgain_eq (List.ne_nil_of_mem (List.mem_of_getElem? hold))] at h4
    have htake : (Rlp.elements raw).take 3 = [old, new, height] := by
      rw [List.take_add_one, List.take_add_one, List.take_add_one, hold, hnew, h4]
      rfl
    have hitems := Rlp.hasItems_take hlist hcontent hprefix
    rw [htake] at hitems
    rw [hleaves] at hfields
    exact ⟨old, new, height, oldKeys, oldAddress, newKeys, newAddress, hitems, hitemsOld, hitemsNew,
      hfields⟩

/-! ## Encoded changes -/

theorem federationEntry_encode {items : List Item} (h : (Item.list items).Fits) :
    federationEntry (Item.list items).encode = .ok ((items.take 2).map itemField) := by
  have hfits : ∀ item ∈ items.take 2, item.Fits := fun item hitem =>
    Rlp.fits_of_mem h item (List.mem_of_mem_take hitem)
  rw [federationEntry_of_isList (Rlp.isList_encode h), Rlp.elements_encode h, ← List.map_take,
    mapM_fieldBytes hfits]

/-- A complete change has the five fields of its items. -/
theorem federationFields_encode {oldKeys oldAddress newKeys newAddress height : Item}
    (h : (Item.list [.list [oldKeys, oldAddress], .list [newKeys, newAddress], height]).Fits)
    (hraw : decodeHex data =
      .ok (Item.list [.list [oldKeys, oldAddress], .list [newKeys, newAddress], height]).encode) :
    federationFields data =
      .ok ([oldKeys, oldAddress, newKeys, newAddress, height].map itemField) := by
  obtain ⟨hold, hfits⟩ := List.forall_mem_cons.mp (Rlp.fits_of_mem h)
  obtain ⟨hnew, hfits⟩ := List.forall_mem_cons.mp hfits
  obtain ⟨hheight, -⟩ := List.forall_mem_cons.mp hfits
  have helements := Rlp.elements_encode h
  have hagain := Rlp.elementsAgain_eq (by rw [helements]; exact List.cons_ne_nil _ _)
  rw [federationFields_of_isList hraw (Rlp.isList_encode h), hagain, helements]
  change ([_, _].mapM federationEntry >>= fun entries => [_].mapM fieldBytes >>= _) = _
  rw [List.mapM_cons, List.mapM_cons, List.mapM_nil, federationEntry_encode hold,
    federationEntry_encode hnew, List.mapM_cons, List.mapM_nil, fieldBytes_encode hheight]
  rfl

/-! ## Which payloads have their fields in place -/

/-- No field of a payload moves exactly if no item is missing in front of one that is there. The
    fields are those of a complete federation change exactly if there are five of them and they come
    from the list. There is an error exactly if the payload, or one of the first two items in it, is
    not a list. -/
theorem federationFields_places (hraw : decodeHex data = .ok raw) :
    (∀ fields, federationFields data = .ok fields →
      (KeepsPlaces raw fields ↔ EndsMissing (leaves raw)) ∧
      (InPlace raw fields ↔ fields.length = 5 ∧ LiesInList raw)) ∧
    ((∃ e, federationFields data = .error e) ↔ raw ≠ [] ∧ ¬StartsWithFederations raw) := by
  refine ⟨fun fields h => ⟨keepsPlaces_iff hraw h, inPlace_iff hraw h⟩, ?_⟩
  have hok := exists_federationFields_iff hraw
  rw [← not_or, ← hok]
  cases federationFields data <;> simp

/-- A change with one key and a short address for each federation. -/
theorem federationFields_places_complete :
    let raw : List UInt8 := [0xc9, 0xc3, 0xc1, 0x02, 0x61, 0xc3, 0xc1, 0x03, 0x62, 0x37]
    let fields : List (List UInt8) := [[0xc1, 0x02], [0x61], [0xc1, 0x03], [0x62], [0x37]]
    decodeHex "0xc9c3c10261c3c1036237" = .ok raw ∧
      federationFields "0xc9c3c10261c3c1036237" = .ok fields ∧ KeepsPlaces raw fields ∧
      InPlace raw fields := by
  intro raw fields
  have hraw : decodeHex "0xc9c3c10261c3c1036237" = .ok raw := by
    rw [← toOption_eq_some_iff]
    decide +kernel
  have hfields : federationFields "0xc9c3c10261c3c1036237" = .ok fields := by
    rw [← toOption_eq_some_iff]
    decide +kernel
  have hlies : LiesInList raw := ⟨raw.tail, by rw [← toOption_eq_some_iff]; decide, by decide⟩
  obtain ⟨hkeeps, hplace⟩ := (federationFields_places hraw).1 fields hfields
  have hends : EndsMissing (leaves raw) := by
    unfold EndsMissing
    decide
  exact ⟨hraw, hfields, hkeeps.mpr hends, hplace.mpr ⟨rfl, hlies⟩⟩

/-- If the old federation has no address, the keys of the new one stand in the place of it. -/
theorem federationFields_moves_keys :
    let raw : List UInt8 := [0xc8, 0xc2, 0xc1, 0x02, 0xc3, 0xc1, 0x03, 0x62, 0x37]
    let fields : List (List UInt8) := [[0xc1, 0x02], [0xc1, 0x03], [0x62], [0x37]]
    decodeHex "0xc8c2c102c3c1036237" = .ok raw ∧
      federationFields "0xc8c2c102c3c1036237" = .ok fields ∧ ¬KeepsPlaces raw fields ∧
      ¬InPlace raw fields := by
  intro raw fields
  have hraw : decodeHex "0xc8c2c102c3c1036237" = .ok raw := by
    rw [← toOption_eq_some_iff]
    decide +kernel
  have hfields : federationFields "0xc8c2c102c3c1036237" = .ok fields := by
    rw [← toOption_eq_some_iff]
    decide +kernel
  refine ⟨hraw, hfields, fun hkeeps => ?_, fun hplace => ?_⟩
  · obtain ⟨part, hpart, -⟩ := hkeeps 1 _ rfl
    exact absurd hpart (by simp [show (leaves raw)[1]? = some none by decide])
  · exact absurd ((inPlace_iff hraw hfields).mp hplace).1 (by decide)

end Bridge

end ContractLens
