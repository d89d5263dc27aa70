import ContractLens.Bridge.Legacy
import ContractLens.Proofs.Except
import ContractLens.Proofs.Rlp.Slices
import ContractLens.Proofs.Text.HexReading

/-!
# Fields of a legacy payload

A payload that is the encoding of an item gives one field for each item in it. Any other payload
that starts like a list loses what cannot be read, since looking for the elements of a list ends
without an error; of a payload that starts like a byte string, the bytes behind it are lost.

* `trimLeadingZeros_eq_self_iff`, `addressBytes_trimLeadingZeros`: what leading zeros are lost.
* `decodeFields_list`, `decodeFields_bytes`: the fields of an encoded item.
* `isField_iff`, `decodeFields_encode`: what they are, without the functions that read them.
* `exists_decodeFields_of_isList`: what starts like a list is never an error.
* `accounts_iff`: nothing is lost exactly if the payload is the encoding of an item, or starts like
  a byte string that is not complete.
-/

namespace ContractLens.Bridge

open Rlp (Item IsEncoding)

/-! ## Leading zeros -/

theorem trimLeadingZeros_cons_of_ne {b : UInt8} (h : b ≠ 0) (raw : List UInt8) :
    trimLeadingZeros (b :: raw) = b :: raw := by
  rw [trimLeadingZeros, List.dropWhile_cons_of_neg (by simpa using h)]

theorem trimLeadingZeros_zero_cons {raw : List UInt8} (h : raw ≠ []) :
    trimLeadingZeros (0 :: raw) = trimLeadingZeros raw := by
  rw [trimLeadingZeros, trimLeadingZeros, List.dropWhile_cons_of_pos (by rfl)]
  cases hrest : raw.dropWhile (· == 0) with
  | cons b rest => rfl
  | nil =>
    -- all bytes are zeros, one of which is left
    cases raw with
    | nil => exact absurd rfl h
    | cons b raw =>
      by_cases hb : b = 0
      · rw [hb]
        rfl
      · rw [List.dropWhile_cons_of_neg (by simpa using hb)] at hrest
        cases hrest

theorem trimLeadingZeros_ne_nil {raw : List UInt8} (h : raw ≠ []) : trimLeadingZeros raw ≠ [] := by
  unfold trimLeadingZeros
  split
  · cases raw with
    | nil => exact absurd rfl h
    | cons b raw => exact List.cons_ne_nil b []
  · next hrest => exact fun hnil => hrest hnil

/-- Only zeros are left out. -/
theorem exists_replicate_append_trimLeadingZeros (raw : List UInt8) :
    ∃ k, raw = List.replicate k 0 ++ trimLeadingZeros raw := by
  induction raw with
  | nil => exact ⟨0, rfl⟩
  | cons b raw ih =>
    by_cases hb : b = 0
    · subst hb
      cases raw with
      | nil => exact ⟨0, rfl⟩
      | cons c raw =>
        obtain ⟨k, hk⟩ := ih
        refine ⟨k + 1, ?_⟩
        rw [trimLeadingZeros_zero_cons (List.cons_ne_nil c raw), List.replicate_succ,
          List.cons_append, ← hk]
    · exact ⟨0, (trimLeadingZeros_cons_of_ne hb raw).symm⟩

theorem trimLeadingZeros_eq_self_iff {raw : List UInt8} (h : raw ≠ []) :
    trimLeadingZeros raw = raw ↔ raw.head? ≠ some 0 ∨ raw = [0] := by
  obtain ⟨b, rest, rfl⟩ := List.exists_cons_of_ne_nil h
  by_cases hb : b = 0
  · subst hb
    cases rest with
    | nil => exact iff_of_true rfl (.inr rfl)
    | cons c rest =>
      obtain ⟨k, hk⟩ := exists_replicate_append_trimLeadingZeros (c :: rest)
      have hlength := congrArg List.length hk
      rw [List.length_append] at hlength
      rw [trimLeadingZeros_zero_cons (List.cons_ne_nil c rest)]
      refine iff_of_false (fun heq => ?_) (by simp)
      rw [heq] at hlength
      simp only [List.length_cons] at hlength
      omega
  · exact iff_of_true (trimLeadingZeros_cons_of_ne hb rest) (.inl (by simpa using hb))

/-- An address gets its leading zeros back. -/
theorem addressBytes_trimLeadingZeros {raw : List UInt8} (h : raw.length = 20) :
    addressBytes (trimLeadingZeros raw) = raw := by
  obtain ⟨k, hk⟩ := exists_replicate_append_trimLeadingZeros raw
  have hlength := congrArg List.length hk
  rw [List.length_append, List.length_replicate] at hlength
  have hdrop : (trimLeadingZeros raw).drop ((trimLeadingZeros raw).length - 20) =
      trimLeadingZeros raw := by
    rw [Nat.sub_eq_zero_of_le (by omega), List.drop_zero]
  have hzeros : 20 - (trimLeadingZeros raw).length = k := by omega
  unfold addressBytes
  simp only [hdrop, hzeros]
  exact hk.symm

/-! ## Encoded items -/

/-- The field that an item is: a byte string without leading zeros, or the encoding of a list. -/
def itemField : Item → List UInt8
  | .bytes raw => trimLeadingZeros raw
  | .list items => (Item.list items).encode

theorem fieldBytes_encode {item : Item} (h : item.Fits) :
    fieldBytes item.encode = .ok (itemField item) := by
  rw [fieldBytes, Rlp.isList_encode h, Rlp.payload_encode h]
  cases item <;> rfl

theorem mapM_fieldBytes {items : List Item} (h : ∀ item ∈ items, item.Fits) :
    (items.map Item.encode).mapM fieldBytes = .ok (items.map itemField) := by
  rw [List.mapM_map]
  exact mapM_eq_ok_map fun item hitem => fieldBytes_encode (h item hitem)

variable {data : String} {raw : List UInt8}

/-- The fields of data that is not empty. -/
theorem decodeFields_of_ne_nil (hraw : decodeHex data = .ok raw) (hne : raw ≠ []) :
    decodeFields data =
      if Rlp.isList raw then (Rlp.elements raw).mapM fieldBytes
      else (fieldBytes raw).map fun field => [field] := by
  have hempty : ¬raw.isEmpty = true := by rwa [List.isEmpty_iff]
  rw [decodeFields, hraw, ok_bind, if_neg hempty]
  split_ifs
  · rfl
  · cases fieldBytes raw <;> rfl

/-- A list has one field for each item. -/
theorem decodeFields_list {items : List Item} (h : (Item.list items).Fits)
    (hraw : decodeHex data = .ok (Item.list items).encode) :
    decodeFields data = .ok (items.map itemField) := by
  rw [decodeFields_of_ne_nil hraw (Rlp.encode_ne_nil h), Rlp.isList_encode h, Item.isList,
    if_pos rfl, Rlp.elements_encode h, mapM_fieldBytes (Rlp.fits_of_mem h)]

/-- A byte string is the only field. -/
theorem decodeFields_bytes {bytes : List UInt8} (h : (Item.bytes bytes).Fits)
    (hraw : decodeHex data = .ok (Item.bytes bytes).encode) :
    decodeFields data = .ok [trimLeadingZeros bytes] := by
  rw [decodeFields_of_ne_nil hraw (Rlp.encode_ne_nil h), Rlp.isList_encode h, Item.isList,
    if_neg Bool.false_ne_true, fieldBytes_encode h]
  rfl

/-- What the field of an item is. -/
inductive IsField : Item → List UInt8 → Prop where
  /-- Of a byte string, the bytes behind its leading zeros. -/
  | bytes (count : ℕ) {first : UInt8} (h : first ≠ 0) (rest : List UInt8) :
    IsField (.bytes (List.replicate count 0 ++ first :: rest)) (first :: rest)
  /-- Of zeros alone, one zero. -/
  | zeros (count : ℕ) : IsField (.bytes (List.replicate (count + 1) 0)) [0]
  | empty : IsField (.bytes []) []
  /-- Of a list, its encoding. -/
  | list (items : List Item) : IsField (.list items) (Item.list items).encode

theorem isField_trimLeadingZeros (raw : List UInt8) :
    IsField (.bytes raw) (trimLeadingZeros raw) := by
  induction raw with
  | nil => exact .empty
  | cons b raw ih =>
    by_cases hb : b = 0
    · subst hb
      cases raw with
      | nil => exact .zeros 0
      | cons c raw =>
        rw [trimLeadingZeros_zero_cons (List.cons_ne_nil c raw)]
        -- one more zero in front changes nothing
        generalize trimLeadingZeros (c :: raw) = field at ih
        generalize hmore : c :: raw = more at ih
        cases ih with
        | bytes count h rest => exact .bytes (count + 1) h rest
        | zeros count => exact .zeros (count + 1)
        | empty => cases hmore
    · rw [trimLeadingZeros_cons_of_ne hb]
      exact .bytes 0 hb raw

theorem trimLeadingZeros_replicate_append (count : ℕ) {raw : List UInt8} (h : raw ≠ []) :
    trimLeadingZeros (List.replicate count 0 ++ raw) = trimLeadingZeros raw := by
  induction count with
  | zero => rfl
  | succ count ih =>
    rw [List.replicate_succ, List.cons_append,
      trimLeadingZeros_zero_cons (List.append_ne_nil_of_right_ne_nil _ h), ih]

/-- Each item has one field. -/
theorem isField_iff {item : Item} {field : List UInt8} :
    IsField item field ↔ itemField item = field := by
  constructor
  · rintro (⟨count, h, rest⟩ | ⟨count⟩ | _ | ⟨items⟩)
    · rw [itemField, trimLeadingZeros_replicate_append _ (List.cons_ne_nil _ _),
        trimLeadingZeros_cons_of_ne h]
    · rw [itemField, List.replicate_succ',
        trimLeadingZeros_replicate_append _ (List.cons_ne_nil _ _)]
      rfl
    · rfl
    · rfl
  · rintro rfl
    cases item with
    | bytes raw => exact isField_trimLeadingZeros raw
    | list items => exact .list items

theorem forall₂_isField (items : List Item) :
    List.Forall₂ IsField items (items.map itemField) :=
  List.forall₂_map_right_iff.mpr (List.forall₂_same.mpr fun _ _ => isField_iff.mpr rfl)

theorem eq_map_itemField {items : List Item} {fields : List (List UInt8)}
    (h : List.Forall₂ IsField items fields) : fields = items.map itemField := by
  induction h with
  | nil => rfl
  | cons hfield _ ih => rw [List.map_cons, isField_iff.mp hfield, ih]

/-- The hex of an encoded list has one field for each item, in order, and that of an encoded byte
    string the field of this byte string. There are no fields without data. -/
theorem decodeFields_encode :
    (∀ items, (Item.list items).Fits → ∃ fields,
      decodeFields (Hex.encodePrefixed (Item.list items).encode) = .ok fields ∧
        List.Forall₂ IsField items fields) ∧
    (∀ raw, (Item.bytes raw).Fits → ∃ field,
      decodeFields (Hex.encodePrefixed (Item.bytes raw).encode) = .ok [field] ∧
        IsField (.bytes raw) field) ∧
    ∀ data, decodeHex data = .ok [] → decodeFields data = .ok [] := by
  refine ⟨fun items hfits => ?_, fun raw hfits => ?_, fun data hdata => ?_⟩
  · exact ⟨_, decodeFields_list hfits (decodeHex_encodePrefixed _), forall₂_isField items⟩
  · exact ⟨_, decodeFields_bytes hfits (decodeHex_encodePrefixed _), isField_trimLeadingZeros raw⟩
  · rw [decodeFields, hdata]
    rfl

/-- A list of a number, zeros, an empty byte string, a long one and a nested list. -/
theorem decodeFields_encode_mixed :
    let long : List UInt8 := List.replicate 60 0xaa
    let items : List Item := [.bytes [0, 0, 7], .bytes [0, 0, 0], .bytes [], .bytes (0 :: long),
      .list [.bytes [0], .list []]]
    (Item.list items).Fits ∧ decodeFields (Hex.encodePrefixed (Item.list items).encode) =
      .ok [[7], [0], [], long, [0xc2, 0, 0xc0]] := by
  intro long items
  have hfits : (Item.list items).Fits := by
    change (Item.encodeAll items).length < 2 ^ 64
    decide
  obtain ⟨fields, hfields, hall⟩ := decodeFields_encode.1 items hfits
  rw [eq_map_itemField hall] at hfields
  exact ⟨hfits, hfields⟩

/-! ## Lost bytes -/

/-- How many fields an item has. -/
def fieldCount : Item → ℕ
  | .bytes _ => 1
  | .list items => items.length

/-- The bytes are one item and nothing else, and the fields are as many as it has. -/
def Accounts (raw : List UInt8) (fields : List (List UInt8)) : Prop :=
  ∃ item, IsEncoding raw item ∧ fields.length = fieldCount item

/-- The bytes start like a byte string that is not complete, or whose header is malformed. -/
def IncompleteBytes (raw : List UInt8) : Prop :=
  Rlp.isList raw = false ∧ ∃ fault, Rlp.payload raw = .error fault

theorem exists_fieldBytes_of_isItem {item : List UInt8} (h : Rlp.IsItem item) :
    ∃ field, fieldBytes item = .ok field := by
  obtain ⟨head, -, hpayload⟩ := h.exists_payload
  rw [fieldBytes, hpayload]
  split_ifs
  · exact ⟨_, rfl⟩
  · exact ⟨_, rfl⟩

theorem exists_mapM_fieldBytes {parts : List (List UInt8)} (h : ∀ part ∈ parts, Rlp.IsItem part) :
    ∃ fields, parts.mapM fieldBytes = .ok fields :=
  exists_mapM_eq_ok fun part hpart => exists_fieldBytes_of_isItem (h part hpart)

/-- What starts like a list is never an error, whatever stands in it and behind it. -/
theorem exists_decodeFields_of_isList (hraw : decodeHex data = .ok raw)
    (hlist : Rlp.isList raw = true) : ∃ fields, decodeFields data = .ok fields := by
  have hne : raw ≠ [] := by
    rintro rfl
    cases hlist
  rw [decodeFields_of_ne_nil hraw hne, if_pos hlist]
  exact exists_mapM_fieldBytes fun _ => Rlp.isItem_of_mem_elements

theorem decodeFields_error_iff (hraw : decodeHex data = .ok raw) (hne : raw ≠ []) :
    (∃ e, decodeFields data = .error e) ↔ IncompleteBytes raw := by
  unfold IncompleteBytes
  cases hlist : Rlp.isList raw with
  | true =>
    obtain ⟨fields, hfields⟩ := exists_decodeFields_of_isList hraw hlist
    simp [hfields]
  | false =>
    rw [decodeFields_of_ne_nil hraw hne, hlist, if_neg Bool.false_ne_true, fieldBytes, hlist,
      if_neg Bool.false_ne_true]
    cases Rlp.payload raw <;> simp [Except.map]

/-- The fields of an encoded item account for all of it. -/
theorem accounts_of_isEncoding {item : Item} (hraw : decodeHex data = .ok raw)
    (h : IsEncoding raw item) {fields : List (List UInt8)}
    (hfields : decodeFields data = .ok fields) : Accounts raw fields := by
  obtain ⟨hfits, rfl⟩ := h
  refine ⟨item, ⟨hfits, rfl⟩, ?_⟩
  cases item with
  | bytes bytes =>
    rw [decodeFields_bytes hfits hraw, Except.ok.injEq] at hfields
    rw [← hfields]
    rfl
  | list items =>
    rw [decodeFields_list hfits hraw, Except.ok.injEq] at hfields
    rw [← hfields, List.length_map]
    rfl

/-- A log is not decoded to a flat event whose fields cannot be read. -/
theorem decodeLegacyLog_of_error {events : List LegacyEvent} {log : RawLog} {event : LegacyEvent}
    {topic name : String} (htopic : log.topics.head? = some topic)
    (hname : eventName topic = .ok name) (hevent : findLegacyEvent events name = some event)
    (hflat : event.layout = .flat) {e : DecodeError} (herror : decodeFields log.data = .error e) :
    (decodeLegacyLog events log).value = .undecoded log := by
  obtain ⟨topics, htopics⟩ := List.head?_eq_some_iff.mp htopic
  have hargs : event.args topics log.data = pure (.error e) := by
    rw [LegacyEvent.args, hflat, PayloadLayout.fields, herror]
  unfold decodeLegacyLog
  simp only [htopics, hname, hevent, hargs]
  rfl

/-- The fields of a payload account for it exactly if it is the encoding of an item, or if it starts
    like a byte string that is not complete. Only then there is an error, and a log of a flat event
    with this payload stays undecoded. -/
theorem accounts_iff (hraw : decodeHex data = .ok raw) (hne : raw ≠ []) :
    ((∀ fields, decodeFields data = .ok fields → Accounts raw fields) ↔
      (∃ item, IsEncoding raw item) ∨ IncompleteBytes raw) ∧
    ((∃ e, decodeFields data = .error e) ↔ IncompleteBytes raw) ∧
    (IncompleteBytes raw →
      ∀ (events : List LegacyEvent) (log : RawLog) (topic name : String) (event : LegacyEvent),
        log.data = data → log.topics.head? = some topic → eventName topic = .ok name →
        findLegacyEvent events name = some event → event.layout = .flat →
        (decodeLegacyLog events log).value = .undecoded log) := by
  rw [← decodeFields_error_iff hraw hne]
  refine ⟨⟨fun haccounts => ?_, ?_⟩, Iff.rfl, ?_⟩
  · cases hfields : decodeFields data with
    | error e => exact .inr ⟨e, rfl⟩
    | ok fields =>
      obtain ⟨item, hitem, -⟩ := haccounts fields hfields
      exact .inl ⟨item, hitem⟩
  · rintro (⟨item, hitem⟩ | ⟨e, herror⟩) fields hfields
    · exact accounts_of_isEncoding hraw hitem hfields
    · rw [herror] at hfields
      cases hfields
  · rintro ⟨e, herror⟩ events log topic name event rfl htopic hname hevent hflat
    exact decodeLegacyLog_of_error htopic hname hevent hflat herror

/-- A list of two bytes has both of them as its fields. -/
theorem accounts_two_bytes :
    let raw : List UInt8 := [0xc2, 0x01, 0x02]
    decodeHex "0xc20102" = .ok raw ∧ raw ≠ [] ∧
      ∀ fields, decodeFields "0xc20102" = .ok fields → Accounts raw fields := by
  intro raw
  have hraw : decodeHex "0xc20102" = .ok raw := by
    rw [← toOption_eq_some_iff]
    decide +kernel
  have hitem : IsEncoding raw (.list [.bytes [0x01], .bytes [0x02]]) :=
    ⟨show 2 < 2 ^ 64 by norm_num, rfl⟩
  exact ⟨hraw, nofun, (accounts_iff hraw nofun).1.mpr (.inl ⟨_, hitem⟩)⟩

/-- Of a list whose third item is cut off, the first two items are all fields. -/
theorem decodeFields_drops_item :
    let raw : List UInt8 := [0xc4, 0x01, 0x02, 0x83, 0xaa]
    decodeHex "0xc4010283aa" = .ok raw ∧ raw ≠ [] ∧
      decodeFields "0xc4010283aa" = .ok [[0x01], [0x02]] ∧ ¬Accounts raw [[0x01], [0x02]] := by
  intro raw
  have hraw : decodeHex "0xc4010283aa" = .ok raw := by
    rw [← toOption_eq_some_iff]
    decide +kernel
  have hfields : decodeFields "0xc4010283aa" = .ok [[0x01], [0x02]] := by
    rw [← toOption_eq_some_iff]
    decide +kernel
  refine ⟨hraw, nofun, hfields, ?_⟩
  rintro ⟨item, hitem, -⟩
  have hpayload := Rlp.payload_of_isEncoding hitem rfl
  rw [← toOption_eq_some_iff] at hpayload
  exact absurd hpayload (by decide)

end ContractLens.Bridge
