import ContractLens.Abi.Signature
import ContractLens.Proofs.Text.Hex

/-!
# Texts behind signature hashes

An event's layout hash is the hash of its canonical signature and the hex of its indexed flags. The
signature ends with a parenthesis and the flags hold none, so the text determines both.

* `Signature.ofFragment_event`: the signature of a named event.
* `layoutText_inj`: equal layout texts come from equal signatures and equal flags.
-/

namespace ContractLens.Abi

/-! ## Lists that are cut -/

/-- Lists that are cut at the first member of a kind have equal parts. -/
theorem append_cons_inj_of_first {α : Type} {p : α → Bool} {x y : α} {xs ys as bs : List α}
    (has : ∀ c ∈ as, p c = false) (hbs : ∀ c ∈ bs, p c = false) (hx : p x = true)
    (hy : p y = true) (h : as ++ x :: xs = bs ++ y :: ys) : as = bs ∧ x :: xs = y :: ys := by
  have hfront : ∀ {front : List α} {c : α} (rest : List α), (∀ d ∈ front, p d = false) →
      p c = true → (front ++ c :: rest).takeWhile (!p ·) = front := by
    intro front c rest hfront hc
    rw [List.takeWhile_append_of_pos (by simpa using hfront),
      List.takeWhile_cons_of_neg (by simp [hc]), List.append_nil]
  obtain rfl : as = bs := by rw [← hfront xs has hx, h, hfront ys hbs hy]
  exact ⟨rfl, List.append_cancel_left h⟩

/-- Lists that are cut at the first place of a member have equal parts. -/
theorem append_cons_inj_of_notMem_left {α : Type} {a : α} {xs ys as bs : List α} (ha : a ∉ as)
    (hb : a ∉ bs) (h : as ++ a :: xs = bs ++ a :: ys) : as = bs ∧ xs = ys := by
  classical
  have hfree : ∀ {l : List α}, a ∉ l → ∀ c ∈ l, decide (c = a) = false := by
    intro l hl c hc
    rw [decide_eq_false_iff_not]
    rintro rfl
    exact hl hc
  obtain ⟨hparts, hrest⟩ := append_cons_inj_of_first (hfree ha) (hfree hb) (decide_eq_true rfl)
    (decide_eq_true rfl) h
  exact ⟨hparts, (List.cons.inj hrest).2⟩

/-- Lists that are cut at the last place of a member have equal parts. -/
theorem append_cons_inj_of_last {α : Type} {a : α} {xs ys as bs : List α} (ha : a ∉ as)
    (hb : a ∉ bs) (h : xs ++ a :: as = ys ++ a :: bs) : xs = ys ∧ as = bs := by
  have hreverse := congrArg List.reverse h
  simp only [List.reverse_append, List.reverse_cons, List.append_assoc, List.singleton_append]
    at hreverse
  obtain ⟨hbehind, hfront⟩ := append_cons_inj_of_notMem_left (List.mem_reverse.not.mpr ha)
    (List.mem_reverse.not.mpr hb) hreverse
  exact ⟨List.reverse_injective hfront, List.reverse_injective hbehind⟩

/-! ## Canonical signatures -/

/-- The canonical signature of a name with parameters. -/
def signatureText (name : String) (inputs : List Param) : String :=
  name ++ typeList (canonicalTypes inputs)

theorem canonicalSignature?_of_name {f : Fragment} {name : String} (h : f.name? = some name) :
    f.canonicalSignature? = some (signatureText name f.inputs) := by
  rw [Fragment.canonicalSignature?, h]
  rfl

/-- A canonical signature ends with a parenthesis. -/
theorem exists_signatureText (name : String) (inputs : List Param) :
    ∃ front, (signatureText name inputs).toList = front ++ [')'] := by
  refine ⟨name.toList ++ '(' :: (String.intercalate "," (canonicalTypes inputs)).toList, ?_⟩
  simp [signatureText, typeList, String.toList_append]

/-! ## Indexed flags -/

/-- The byte that stands for an indexed flag. -/
def flagByte (indexed : Bool) : UInt8 := if indexed then 1 else 0

/-- The text whose hash is the layout hash. -/
def layoutText (method : String) (flags : List Bool) : String :=
  method ++ Hex.encode (flags.map flagByte)

theorem flagByte_injective : Function.Injective flagByte := by decide

theorem paren_not_mem_flags (flags : List Bool) :
    ')' ∉ (Hex.encode (flags.map flagByte)).toList := by
  intro h
  obtain ⟨n, hn, hdigit⟩ := Hex.exists_digit_of_mem_encode h
  exact Hex.digit_ne hn (by decide : Hex.digitValue? ')' = none) hdigit.symm

/-- Equal layout texts come from equal signatures and equal flags. -/
theorem layoutText_inj {name name' : String} {inputs inputs' : List Param}
    {flags flags' : List Bool}
    (h : layoutText (signatureText name inputs) flags =
      layoutText (signatureText name' inputs') flags') :
    signatureText name inputs = signatureText name' inputs' ∧ flags = flags' := by
  obtain ⟨front, hfront⟩ := exists_signatureText name inputs
  obtain ⟨front', hfront'⟩ := exists_signatureText name' inputs'
  have hlist := congrArg String.toList h
  simp only [layoutText, String.toList_append, hfront, hfront', List.append_assoc,
    List.singleton_append] at hlist
  obtain ⟨hsig, hflags⟩ := append_cons_inj_of_last (paren_not_mem_flags flags)
    (paren_not_mem_flags flags') hlist
  constructor
  · apply String.toList_injective
    rw [hfront, hfront', hsig]
  · exact List.map_injective_iff.mpr flagByte_injective
      (Hex.encode_inj (String.toList_injective hflags))

/-! ## Signatures of events -/

theorem name?_eq_some_iff {f : Fragment} {name : String} :
    f.name? = some name ↔ f.givenName = some name ∧ name ≠ "" := by
  simp [Fragment.name?, Option.filter_eq_some_iff]

/-- The signature of a named event. -/
theorem ofFragment_event {f : Fragment} {name : String} (hev : f.isEvent = true)
    (hname : f.name? = some name) :
    Signature.ofFragment f =
      { method := some (signatureText name f.inputs)
        hash := some (Keccak.keccak256Hex (signatureText name f.inputs))
        indexed := f.inputs.map Param.isIndexed
        layoutHash := some (Keccak.keccak256Hex
          (layoutText (signatureText name f.inputs) (f.inputs.map Param.isIndexed))) } := by
  simp only [Signature.ofFragment, Fragment.canonicalSignature?, hname, hev, Option.map_some,
    if_true]
  rfl

/-- An event without a name has no layout hash. -/
theorem layoutHash_of_unnamed {f : Fragment} (hname : f.name? = none) :
    (Signature.ofFragment f).layoutHash = none := by
  simp [Signature.ofFragment, Fragment.canonicalSignature?, hname]

theorem indexedCount_ofFragment {f : Fragment} (hev : f.isEvent = true) :
    (Signature.ofFragment f).indexedCount = f.indexedCount := by
  simp only [Signature.indexedCount, Signature.ofFragment, hev, if_true, Fragment.indexedCount,
    List.count, List.countP_map]
  congr 1
  funext p
  simp

end ContractLens.Abi
