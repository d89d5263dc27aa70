import ContractLens.Proofs.Abi.Signature

/-!
# What a canonical signature determines

A canonical signature writes the types of the inputs one behind the other, a tuple as its parts in
parentheses. As long as the name has no parenthesis and the types have neither parentheses nor
commas of their own, it can be read in one way only.

* `TypeTree`: what a type shows in a canonical text.
* `TypeTree.chars_append_inj`: a text that starts with a type determines the type and what is behind
  it.
* `canonicalSignature?_eq_iff_typeTrees`: two fragments have the same canonical signature exactly if
  they have the same name and their inputs the same types.
-/

namespace ContractLens.Abi

/-! ## Types as trees -/

/-- A type as it shows in a canonical text: a text of its own, or a tuple of parts with the brackets
    behind it. -/
inductive TypeTree where
  | leaf (text : String)
  | tuple (parts : List TypeTree) (suffix : String)

mutual

/-- The type of a parameter. -/
def Param.typeTree : Param → TypeTree
  | .mk _ type components _ _ =>
    match tupleSuffix? type with
    | some suffix => .tuple (typeTrees components) suffix
    | none => .leaf type
termination_by structural p => p

/-- The types of parameters. -/
def Param.typeTrees : List Param → List TypeTree
  | [] => []
  | p :: ps => typeTree p :: typeTrees ps
termination_by structural ps => ps

end

theorem Param.typeTrees_eq_map (ps : List Param) : typeTrees ps = ps.map typeTree := by
  induction ps with
  | nil => rfl
  | cons p ps ih => rw [typeTrees, ih, List.map_cons]

/-- The signs that a canonical text has between its types. -/
def isSeparator (c : Char) : Bool := c == '(' || c == ')' || c == ','

/-- A text without such signs. -/
def SeparatorFree (s : String) : Prop := ∀ c ∈ s.toList, isSeparator c = false

instance (s : String) : Decidable (SeparatorFree s) := List.decidableBAll _ _

/-- A type whose texts, at every depth, have no signs that stand between types; texts of their own
    are not empty. -/
inductive TypeTree.Readable : TypeTree → Prop
  | leaf {text : String} : text ≠ "" → SeparatorFree text → Readable (.leaf text)
  | tuple {parts : List TypeTree} {suffix : String} :
    (∀ t ∈ parts, Readable t) → SeparatorFree suffix → Readable (.tuple parts suffix)

namespace TypeTree

mutual

/-- Readable types are told part by part. -/
def decReadable : (t : TypeTree) → Decidable t.Readable
  | leaf text =>
    decidable_of_iff (text ≠ "" ∧ SeparatorFree text)
      ⟨fun ⟨hne, hfree⟩ => .leaf hne hfree, fun | .leaf hne hfree => ⟨hne, hfree⟩⟩
  | tuple parts suffix =>
    have := decAllReadable parts
    decidable_of_iff ((∀ t ∈ parts, t.Readable) ∧ SeparatorFree suffix)
      ⟨fun ⟨hparts, hfree⟩ => .tuple hparts hfree, fun | .tuple hparts hfree => ⟨hparts, hfree⟩⟩
termination_by structural t => t

/-- Lists of readable types are told type by type. -/
def decAllReadable : (ts : List TypeTree) → Decidable (∀ t ∈ ts, t.Readable)
  | [] => isTrue (List.forall_mem_nil _)
  | t :: ts =>
    have := decReadable t
    have := decAllReadable ts
    decidable_of_iff (t.Readable ∧ ∀ u ∈ ts, u.Readable) List.forall_mem_cons.symm
termination_by structural ts => ts

end

instance (t : TypeTree) : Decidable t.Readable := decReadable t

end TypeTree

/-- A fragment with a name that has no opening parenthesis, and with inputs of readable types. -/
structure Fragment.Readable (f : Fragment) : Prop where
  named : ∃ name, f.name? = some name ∧ '(' ∉ name.toList
  types : ∀ p ∈ f.inputs, p.typeTree.Readable

/-! ## Canonical texts -/

namespace TypeTree

mutual

/-- The canonical text of a type. -/
def chars : TypeTree → List Char
  | leaf text => text.toList
  | tuple parts suffix => '(' :: ([','].intercalate (charLists parts) ++ ')' :: suffix.toList)
termination_by structural t => t

/-- The canonical texts of types. -/
def charLists : List TypeTree → List (List Char)
  | [] => []
  | t :: ts => chars t :: charLists ts
termination_by structural ts => ts

end

end TypeTree

theorem toList_typeList (types : List String) :
    (typeList types).toList = '(' :: ([','].intercalate (types.map String.toList) ++ [')']) := by
  simp [typeList]

mutual

theorem toList_canonicalType : ∀ p : Param, (canonicalType p).toList = p.typeTree.chars
  | .mk name type components indexed internalType => by
    rw [canonicalType, Param.typeTree]
    cases tupleSuffix? type with
    | none => rfl
    | some suffix =>
      simp [toList_typeList, map_toList_canonicalTypes components, TypeTree.chars]
termination_by structural p => p

theorem map_toList_canonicalTypes : ∀ ps : List Param,
    (canonicalTypes ps).map String.toList = TypeTree.charLists (Param.typeTrees ps)
  | [] => rfl
  | p :: ps => by
    rw [canonicalTypes, List.map_cons, toList_canonicalType p, map_toList_canonicalTypes ps]
    rfl
termination_by structural ps => ps

end

/-- A canonical signature is the name and, in parentheses, the texts of the types. -/
theorem toList_signatureText (name : String) (inputs : List Param) :
    (signatureText name inputs).toList =
      name.toList ++
        '(' :: ([','].intercalate (TypeTree.charLists (Param.typeTrees inputs)) ++ [')']) := by
  rw [signatureText, String.toList_append, toList_typeList, map_toList_canonicalTypes]

/-! ## Reading a text -/

/-- A text in which no type goes on. -/
def Stops (rest : List Char) : Prop := ∃ c cs, rest = c :: cs ∧ isSeparator c = true

theorem append_inj_of_stops {s s' : String} {rest rest' : List Char} (hs : SeparatorFree s)
    (hs' : SeparatorFree s') (hr : Stops rest) (hr' : Stops rest')
    (h : s.toList ++ rest = s'.toList ++ rest') : s = s' ∧ rest = rest' := by
  obtain ⟨c, cs, rfl, hc⟩ := hr
  obtain ⟨d, ds, rfl, hd⟩ := hr'
  obtain ⟨hsame, hrest⟩ := append_cons_inj_of_first hs hs' hc hd h
  exact ⟨String.toList_injective hsame, hrest⟩

/-- Types behind a first one, each with its comma. -/
theorem intercalate_comma (first : List Char) (more : List (List Char)) :
    [','].intercalate (first :: more) = first ++ more.flatMap (',' :: ·) := by
  induction more generalizing first with
  | nil => simp
  | cons second more ih => rw [List.intercalate_cons_cons, ih]; simp

namespace TypeTree

/-- What stands behind a type in a list of types. -/
theorem stops_more (ts : List TypeTree) (rest : List Char) :
    Stops ((charLists ts).flatMap (',' :: ·) ++ ')' :: rest) := by
  cases ts with
  | nil => exact ⟨')', rest, rfl, rfl⟩
  | cons t ts => exact ⟨',', _, rfl, rfl⟩

/-- A type does not begin with the end of a list. -/
theorem exists_chars {t : TypeTree} (ht : t.Readable) : ∃ c cs, t.chars = c :: cs ∧ c ≠ ')' := by
  cases ht with
  | @leaf text hne hfree =>
    rw [chars]
    cases htext : text.toList with
    | nil => exact absurd (String.toList_eq_nil_iff.mp htext) hne
    | cons c cs =>
      refine ⟨c, cs, rfl, ?_⟩
      rintro rfl
      exact absurd (hfree ')' (htext ▸ List.mem_cons_self)) (by decide)
  | tuple _ _ => exact ⟨'(', _, rfl, by decide⟩

/-- A text of its own is no tuple. -/
theorem leaf_ne_tuple {text suffix : String} {parts : List TypeTree} {rest rest' : List Char}
    (ht : (leaf text).Readable) :
    (leaf text).chars ++ rest ≠ (tuple parts suffix).chars ++ rest' := by
  cases ht with
  | leaf hne hfree =>
    rw [chars, chars]
    cases htext : text.toList with
    | nil => exact absurd (String.toList_eq_nil_iff.mp htext) hne
    | cons c cs =>
      intro h
      obtain ⟨rfl, -⟩ := List.cons.inj h
      exact absurd (hfree '(' (htext ▸ List.mem_cons_self)) (by decide)

mutual

/-- A text that starts with a type determines the type and what is behind it. -/
theorem chars_append_inj : ∀ (t t' : TypeTree) {rest rest' : List Char}, t.Readable →
    t'.Readable → Stops rest → Stops rest' → t.chars ++ rest = t'.chars ++ rest' →
    t = t' ∧ rest = rest'
  | leaf text, leaf text', rest, rest', .leaf _ hs, .leaf _ hs', hr, hr', h => by
    obtain ⟨rfl, hrest⟩ := append_inj_of_stops hs hs' hr hr' h
    exact ⟨rfl, hrest⟩
  | leaf _, tuple _ _, _, _, ht, _, _, _, h => absurd h (leaf_ne_tuple ht)
  | tuple _ _, leaf _, _, _, _, ht', _, _, h => absurd h.symm (leaf_ne_tuple ht')
  | tuple parts suffix, tuple parts' suffix', rest, rest', .tuple hp hs, .tuple hp' hs', hr, hr',
      h => by
    simp only [chars, List.cons_append, List.append_assoc, List.cons.injEq, true_and] at h
    obtain ⟨rfl, hbehind⟩ := parts_append_inj parts parts' hp hp' h
    obtain ⟨rfl, hrest⟩ := append_inj_of_stops hs hs' hr hr' hbehind
    exact ⟨rfl, hrest⟩
termination_by structural t => t

/-- So does the list of the parts of a tuple, whose end shows. -/
theorem parts_append_inj : ∀ (ts ts' : List TypeTree) {rest rest' : List Char},
    (∀ t ∈ ts, t.Readable) → (∀ t ∈ ts', t.Readable) →
    [','].intercalate (charLists ts) ++ ')' :: rest =
      [','].intercalate (charLists ts') ++ ')' :: rest' →
    ts = ts' ∧ rest = rest'
  | [], [], _, _, _, _, h => ⟨rfl, (List.cons.inj h).2⟩
  | [], t' :: ts', _, _, _, hts', h => by
    obtain ⟨c, cs, hc, hne⟩ := exists_chars (hts' t' List.mem_cons_self)
    simp [charLists, intercalate_comma, hc, hne.symm] at h
  | t :: ts, [], _, _, hts, _, h => by
    obtain ⟨c, cs, hc, hne⟩ := exists_chars (hts t List.mem_cons_self)
    simp [charLists, intercalate_comma, hc, hne] at h
  | t :: ts, t' :: ts', rest, rest', hts, hts', h => by
    rw [List.forall_mem_cons] at hts hts'
    simp only [charLists, intercalate_comma, List.append_assoc] at h
    obtain ⟨rfl, hmore⟩ := chars_append_inj t t' hts.1 hts'.1 (stops_more ts rest)
      (stops_more ts' rest') h
    obtain ⟨rfl, hrest⟩ := more_append_inj ts ts' hts.2 hts'.2 hmore
    exact ⟨rfl, hrest⟩
termination_by structural ts => ts

/-- So does the list of the parts behind a first one. -/
theorem more_append_inj : ∀ (ts ts' : List TypeTree) {rest rest' : List Char},
    (∀ t ∈ ts, t.Readable) → (∀ t ∈ ts', t.Readable) →
    (charLists ts).flatMap (',' :: ·) ++ ')' :: rest =
      (charLists ts').flatMap (',' :: ·) ++ ')' :: rest' →
    ts = ts' ∧ rest = rest'
  | [], [], _, _, _, _, h => ⟨rfl, (List.cons.inj h).2⟩
  | [], _ :: _, _, _, _, _, h => absurd (List.cons.inj h).1 (by decide)
  | _ :: _, [], _, _, _, _, h => absurd (List.cons.inj h).1 (by decide)
  | t :: ts, t' :: ts', rest, rest', hts, hts', h => by
    rw [List.forall_mem_cons] at hts hts'
    simp only [charLists, List.flatMap_cons, List.cons_append, List.append_assoc, List.cons.injEq,
      true_and] at h
    obtain ⟨rfl, hmore⟩ := chars_append_inj t t' hts.1 hts'.1 (stops_more ts rest)
      (stops_more ts' rest') h
    obtain ⟨rfl, hrest⟩ := more_append_inj ts ts' hts.2 hts'.2 hmore
    exact ⟨rfl, hrest⟩
termination_by structural ts => ts

end

end TypeTree

/-! ## Signatures -/

/-- A canonical signature can be read in one way only. -/
theorem signatureText_inj {name name' : String} {inputs inputs' : List Param}
    (hn : '(' ∉ name.toList) (hn' : '(' ∉ name'.toList)
    (hi : ∀ p ∈ inputs, p.typeTree.Readable) (hi' : ∀ p ∈ inputs', p.typeTree.Readable)
    (h : signatureText name inputs = signatureText name' inputs') :
    name = name' ∧ inputs.map Param.typeTree = inputs'.map Param.typeTree := by
  have hlist := congrArg String.toList h
  rw [toList_signatureText, toList_signatureText, Param.typeTrees_eq_map,
    Param.typeTrees_eq_map] at hlist
  obtain ⟨hname, hbehind⟩ := append_cons_inj_of_notMem_left hn hn' hlist
  obtain ⟨htypes, -⟩ := TypeTree.parts_append_inj _ _ (List.forall_mem_map.mpr hi)
    (List.forall_mem_map.mpr hi') hbehind
  exact ⟨String.toList_injective hname, htypes⟩

/-- Inputs of the same types have the same canonical texts. -/
theorem canonicalTypes_congr {inputs inputs' : List Param}
    (h : inputs.map Param.typeTree = inputs'.map Param.typeTree) :
    canonicalTypes inputs = canonicalTypes inputs' := by
  refine List.map_injective_iff.mpr (fun _ _ heq => String.toList_injective heq) ?_
  rw [map_toList_canonicalTypes, map_toList_canonicalTypes, Param.typeTrees_eq_map,
    Param.typeTrees_eq_map, h]

/-- Two readable fragments have canonical signatures. These are the same exactly if the names are
    the same and the inputs have the same types, as trees with their leaves, tuples and brackets;
    how the inputs are named and marked has no effect. -/
theorem canonicalSignature?_eq_iff_typeTrees {f g : Fragment} (hf : f.Readable)
    (hg : g.Readable) :
    ∃ text text' : String,
      f.canonicalSignature? = some text ∧ g.canonicalSignature? = some text' ∧
      (text = text' ↔
        f.name? = g.name? ∧ f.inputs.map Param.typeTree = g.inputs.map Param.typeTree) := by
  obtain ⟨name, hname, hfree⟩ := hf.named
  obtain ⟨name', hname', hfree'⟩ := hg.named
  refine ⟨signatureText name f.inputs, signatureText name' g.inputs,
    canonicalSignature?_of_name hname, canonicalSignature?_of_name hname', ?_, ?_⟩
  · intro h
    obtain ⟨rfl, htypes⟩ := signatureText_inj hfree hfree' hf.types hg.types h
    exact ⟨hname.trans hname'.symm, htypes⟩
  · rintro ⟨hsame, htypes⟩
    obtain rfl : name = name' := by simpa [hname, hname'] using hsame
    rw [signatureText, signatureText, canonicalTypes_congr htypes]

/-- A function that takes a list of orders, a key and a flag. -/
def submitFlat : Fragment :=
  .ofFunction "submit"
    [.mk "orders" "tuple[3]" [.plain "amount" "uint256", .plain "owner" "address"] none none,
      .mk "inner" "tuple[]" [.plain "x" "bytes32"] none none, .plain "flag" "bool"] []

/-- The same with the key and the flag in a tuple. -/
def submitNested : Fragment :=
  .ofFunction "submit"
    [.mk "orders" "tuple[3]" [.plain "amount" "uint256", .plain "owner" "address"] none none,
      .mk "nested" "tuple"
        [.mk "inner" "tuple[]" [.plain "x" "bytes32"] none none, .plain "flag" "bool"] none none] []

/-- A tuple is told from the list of its parts. -/
theorem canonicalSignature?_submit :
    ∃ text text' : String,
      submitFlat.canonicalSignature? = some text ∧
      submitNested.canonicalSignature? = some text' ∧ text ≠ text' := by
  have hflat : submitFlat.Readable := ⟨⟨"submit", rfl, by decide⟩, by decide⟩
  have hnested : submitNested.Readable := ⟨⟨"submit", rfl, by decide⟩, by decide⟩
  obtain ⟨text, text', htext, htext', hiff⟩ := canonicalSignature?_eq_iff_typeTrees hflat hnested
  refine ⟨text, text', htext, htext', fun heq => ?_⟩
  have hlength := congrArg List.length (hiff.mp heq).2
  simp [submitFlat, submitNested, Fragment.ofFunction] at hlength

end ContractLens.Abi
