import ContractLens.Proofs.Rlp

/-!
# Items found in a slice

What a slice holds is told by its headers alone, whether or not it is the encoding of an item. An
item is a slice that its own header spans. Items are found at the start of any slice, one after the
other, and whatever is found is an item.

* `header_take`, `header_append`: a header is read from the bytes of its item.
* `walk_flatten_append`: items are found one after the other in front of any bytes.
* `isItem_of_mem_walk`, `flatten_walk_isPrefix`: what is found are items that the slice starts with.
* `HasItems`: a slice starts with a list that starts with some items.
* `HasItems.prefix_elements`, `hasItems_take`: the elements of a list are the items in it.
-/

namespace ContractLens.Rlp

/-! ## Headers of items -/

theorem longHeader_take {count n : ℕ} {rest : List UInt8} {h : Header}
    (hrest : longHeader count rest = .ok h) (hn : h.total ≤ n + 1) :
    longHeader count (rest.take n) = .ok h := by
  obtain ⟨⟨first, more, rfl, hfirst⟩, hcount, hsize, rfl⟩ := longHeader_eq_ok_iff.mp hrest
  change 1 + count + natOfBytes ((first :: more).take count) ≤ n + 1 at hn
  have htake : ((first :: more).take n).take count = (first :: more).take count := by
    rw [List.take_take, min_eq_left (by omega)]
  rw [longHeader_eq_ok_iff, htake]
  refine ⟨?_, ?_, hsize, rfl⟩
  · obtain ⟨k, rfl⟩ : ∃ k, n = k + 1 := ⟨n - 1, by omega⟩
    exact ⟨first, more.take k, rfl, hfirst⟩
  · rw [List.length_take]
    omega

theorem total_pos {slice : List UInt8} {h : Header} (hslice : header slice = .ok h) :
    0 < h.total := by
  have hlong : ∀ {count : ℕ} {rest : List UInt8}, longHeader count rest = .ok h → 0 < h.total := by
    intro count rest hrest
    obtain ⟨-, -, -, rfl⟩ := longHeader_eq_ok_iff.mp hrest
    exact Nat.add_pos_left (Nat.add_pos_left one_pos _) _
  cases slice with
  | nil => cases hslice
  | cons first rest =>
    rw [header] at hslice
    split_ifs at hslice
    · cases hslice
      exact one_pos
    · cases hslice
      exact Nat.add_pos_left one_pos _
    · exact hlong hslice
    · cases hslice
      exact Nat.add_pos_left one_pos _
    · exact hlong hslice

/-- A header is read from the bytes of its item alone. -/
theorem header_take {slice : List UInt8} {h : Header} (hslice : header slice = .ok h) :
    header (slice.take h.total) = .ok h := by
  have hpos := total_pos hslice
  cases slice with
  | nil => cases hslice
  | cons first rest =>
    obtain ⟨k, hk⟩ : ∃ k, h.total = k + 1 := ⟨h.total - 1, by omega⟩
    rw [hk, List.take_succ_cons]
    rw [header] at hslice ⊢
    split_ifs at hslice ⊢
    · exact hslice
    · exact hslice
    · exact longHeader_take hslice (by omega)
    · exact hslice
    · exact longHeader_take hslice (by omega)

theorem completeHeader_eq_ok_iff {slice : List UInt8} {h : Header} :
    completeHeader slice = .ok h ↔ header slice = .ok h ∧ h.total ≤ slice.length := by
  rw [completeHeader]
  cases header slice with
  | error e => simp
  | ok head =>
    simp only
    split_ifs with hle
    · rw [Except.ok.injEq]
      exact ⟨fun hhead => ⟨hhead, hhead ▸ hle⟩, And.left⟩
    · constructor
      · intro hok
        cases hok
      · rintro ⟨hok, hfit⟩
        cases hok
        exact absurd hfit hle

theorem completeHeader_take {slice : List UInt8} {h : Header}
    (hslice : completeHeader slice = .ok h) : completeHeader (slice.take h.total) = .ok h := by
  obtain ⟨hheader, hle⟩ := completeHeader_eq_ok_iff.mp hslice
  rw [completeHeader_eq_ok_iff, List.length_take, min_eq_left hle]
  exact ⟨header_take hheader, le_rfl⟩

theorem longHeader_append_right {count : ℕ} {rest : List UInt8} {h : Header}
    (hrest : longHeader count rest = .ok h) (more : List UInt8) :
    longHeader count (rest ++ more) = .ok h := by
  obtain ⟨⟨first, tail, rfl, hfirst⟩, hcount, hsize, rfl⟩ := longHeader_eq_ok_iff.mp hrest
  rw [longHeader_eq_ok_iff, List.take_append_of_le_length hcount]
  refine ⟨⟨first, tail ++ more, rfl, hfirst⟩, ?_, hsize, rfl⟩
  rw [List.length_append]
  omega

/-- A header is read in front of any bytes. -/
theorem header_append {slice : List UInt8} {h : Header} (hslice : header slice = .ok h)
    (more : List UInt8) : header (slice ++ more) = .ok h := by
  cases slice with
  | nil => cases hslice
  | cons first rest =>
    rw [List.cons_append]
    rw [header] at hslice ⊢
    split_ifs at hslice ⊢
    · exact hslice
    · exact hslice
    · exact longHeader_append_right hslice more
    · exact hslice
    · exact longHeader_append_right hslice more

theorem completeHeader_append {slice : List UInt8} {h : Header}
    (hslice : completeHeader slice = .ok h) (more : List UInt8) :
    completeHeader (slice ++ more) = .ok h := by
  obtain ⟨hheader, hle⟩ := completeHeader_eq_ok_iff.mp hslice
  rw [completeHeader_eq_ok_iff, List.length_append]
  exact ⟨header_append hheader more, by omega⟩

/-! ## Items one after the other -/

/-- A slice is an item if its header spans all of it. -/
def IsItem (slice : List UInt8) : Prop := ∃ h, completeHeader slice = .ok h ∧ h.total = slice.length

theorem IsItem.exists_payload {slice : List UInt8} (h : IsItem slice) :
    ∃ head, completeHeader slice = .ok head ∧ payload slice = .ok (slice.drop head.headerSize) := by
  obtain ⟨head, hhead, htotal⟩ := h
  refine ⟨head, hhead, ?_⟩
  have hall : (slice.drop head.headerSize).take head.payloadSize = slice.drop head.headerSize := by
    refine List.take_of_length_le ?_
    rw [List.length_drop, ← htotal, Header.total]
    omega
  rw [payload, hhead]
  exact congrArg Except.ok hall

/-- A walk that may go on for as long as there are bytes finds the same as any longer one. -/
theorem walkFor_of_le {m n : ℕ} {slice : List UInt8} (hm : slice.length ≤ m)
    (hn : slice.length ≤ n) : walkFor m slice = walkFor n slice := by
  have hnil (k : ℕ) : walkFor k [] = [] := by cases k <;> rfl
  induction m generalizing n slice with
  | zero =>
    obtain rfl := List.length_eq_zero_iff.mp (Nat.le_zero.mp hm)
    rw [hnil, hnil]
  | succ m ih =>
    cases n with
    | zero =>
      obtain rfl := List.length_eq_zero_iff.mp (Nat.le_zero.mp hn)
      rw [hnil, hnil]
    | succ n =>
      rw [walkFor, walkFor]
      cases hhead : completeHeader slice with
      | error e => rfl
      | ok head =>
        have hpos := total_pos (completeHeader_eq_ok_iff.mp hhead).1
        have hrest : (slice.drop head.total).length + 1 ≤ slice.length := by
          have hle := (completeHeader_eq_ok_iff.mp hhead).2
          rw [List.length_drop]
          omega
        exact congrArg (slice.take head.total :: ·) (ih (by omega) (by omega))

theorem walk_append {part : List UInt8} (h : IsItem part) (rest : List UInt8) :
    walk (part ++ rest) = part :: walk rest := by
  obtain ⟨head, hhead, htotal⟩ := h
  have hpos := total_pos (completeHeader_eq_ok_iff.mp hhead).1
  have hlength : (part ++ rest).length = part.length - 1 + rest.length + 1 := by
    rw [List.length_append]
    omega
  rw [walk, hlength, walkFor, completeHeader_append hhead rest]
  simp only [htotal, List.take_left, List.drop_left]
  rw [walkFor_of_le (Nat.le_add_left _ _) le_rfl, walk]

/-- Items are found one after the other in front of any bytes. -/
theorem walk_flatten_append {parts : List (List UInt8)} (h : ∀ part ∈ parts, IsItem part)
    (rest : List UInt8) : walk (parts.flatten ++ rest) = parts ++ walk rest := by
  induction parts with
  | nil => rfl
  | cons part parts ih =>
    obtain ⟨hpart, hparts⟩ := List.forall_mem_cons.mp h
    rw [List.flatten_cons, List.append_assoc, walk_append hpart, ih hparts, List.cons_append]

theorem isItem_of_mem_walkFor {count : ℕ} {slice item : List UInt8}
    (h : item ∈ walkFor count slice) : IsItem item := by
  induction count generalizing slice with
  | zero => cases h
  | succ count ih =>
    rw [walkFor] at h
    split at h
    · next head hhead =>
      obtain rfl | h := List.mem_cons.mp h
      · have hle := (completeHeader_eq_ok_iff.mp hhead).2
        exact ⟨head, completeHeader_take hhead, by rw [List.length_take, min_eq_left hle]⟩
      · exact ih h
    · cases h

/-- Whatever is found is an item. -/
theorem isItem_of_mem_walk {slice item : List UInt8} (h : item ∈ walk slice) : IsItem item :=
  isItem_of_mem_walkFor h

theorem flatten_walkFor_isPrefix (count : ℕ) (slice : List UInt8) :
    (walkFor count slice).flatten <+: slice := by
  induction count generalizing slice with
  | zero => exact List.nil_prefix
  | succ count ih =>
    rw [walkFor]
    split
    · next head _ =>
      obtain ⟨rest, hrest⟩ := ih (slice.drop head.total)
      exact ⟨rest, by rw [List.flatten_cons, List.append_assoc, hrest, List.take_append_drop]⟩
    · exact List.nil_prefix

/-- The items that are found stand at the start of the slice. -/
theorem flatten_walk_isPrefix (slice : List UInt8) : (walk slice).flatten <+: slice :=
  flatten_walkFor_isPrefix _ slice

/-! ## Elements of lists -/

theorem mem_walk_of_mem_elements {slice item : List UInt8} (h : item ∈ elements slice) :
    ∃ rest, item ∈ walk rest := by
  unfold elements at h
  split at h
  · cases h
  · split at h
    · cases h
    · exact ⟨_, h⟩

theorem isItem_of_mem_elements {slice item : List UInt8} (h : item ∈ elements slice) :
    IsItem item := by
  obtain ⟨rest, hrest⟩ := mem_walk_of_mem_elements h
  exact isItem_of_mem_walk hrest

theorem isItem_of_mem_elementsAgain {slice item : List UInt8} (h : item ∈ elementsAgain slice) :
    IsItem item := by
  unfold elementsAgain at h
  split at h
  · cases h
  · exact isItem_of_mem_walk h

/-- A second pass finds what the first one found, if that is anything. -/
theorem elementsAgain_eq {slice : List UInt8} (h : elements slice ≠ []) :
    elementsAgain slice = elements slice := by
  unfold elements at h ⊢
  unfold elementsAgain
  split
  · rfl
  · next head hhead =>
    rw [hhead] at h
    simp only at h ⊢
    split at h
    · exact absurd rfl h
    · rfl

/-- A slice starts with a list, whose payload starts with these items. -/
def HasItems (slice : List UInt8) (parts : List (List UInt8)) : Prop :=
  isList slice = true ∧ (∀ part ∈ parts, IsItem part) ∧
    ∃ content, payload slice = .ok content ∧ parts.flatten <+: content

/-- The items at the start of a list are its first elements. -/
theorem HasItems.prefix_elements {slice : List UInt8} {parts : List (List UInt8)}
    (h : HasItems slice parts) : parts <+: elements slice := by
  obtain ⟨-, hparts, content, hcontent, more, rfl⟩ := h
  cases parts with
  | nil => exact List.nil_prefix
  | cons part parts =>
    obtain ⟨head, hhead, -⟩ := hparts part (List.mem_cons_self ..)
    rw [payload] at hcontent
    cases hslice : completeHeader slice with
    | error e =>
      rw [hslice] at hcontent
      cases hcontent
    | ok outer =>
      rw [hslice] at hcontent
      have hpayload := Except.ok.inj hcontent
      have hfirst := completeHeader_append hhead (parts.flatten ++ more)
      rw [← List.append_assoc, ← List.flatten_cons, ← hpayload] at hfirst
      have hdrop : slice.drop outer.headerSize = (part :: parts).flatten ++
          (more ++ (slice.drop outer.headerSize).drop outer.payloadSize) := by
        rw [← List.append_assoc, ← hpayload, List.take_append_drop]
      rw [elements, hslice]
      simp only [hfirst]
      rw [hdrop, walk_flatten_append hparts]
      exact List.prefix_append _ _

/-- The first elements of a list are items at its start, if they lie in it. -/
theorem hasItems_take {slice content : List UInt8} (hlist : isList slice = true)
    (hcontent : payload slice = .ok content) {n : ℕ}
    (h : ((elements slice).take n).flatten <+: content) :
    HasItems slice ((elements slice).take n) :=
  ⟨hlist, fun _ hpart => isItem_of_mem_elements (List.mem_of_mem_take hpart), content, hcontent, h⟩

theorem flatten_elements_isPrefix {slice : List UInt8} {head : Header}
    (h : completeHeader slice = .ok head) :
    (elements slice).flatten <+: slice.drop head.headerSize := by
  rw [elements, h]
  simp only
  split
  · exact List.nil_prefix
  · exact flatten_walk_isPrefix _

/-- The elements of an item lie in it. -/
theorem IsItem.hasItems_take {slice : List UInt8} (h : IsItem slice) (hlist : isList slice = true)
    (n : ℕ) : HasItems slice ((elements slice).take n) := by
  obtain ⟨head, hhead, hpayload⟩ := h.exists_payload
  have htake := List.take_prefix n (elements slice)
  exact Rlp.hasItems_take hlist hpayload (htake.flatten.trans (flatten_elements_isPrefix hhead))

end ContractLens.Rlp
