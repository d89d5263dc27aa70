import ContractLens.Proofs.Text.LetterCase
import ContractLens.Proxy

/-!
# Addresses in storage words

A storage word that is not zero is `0x` or `0X` and hex digits. Its last forty digits are an address.
Only `0x` is taken off in front of them, however: with fewer than forty digits behind `0X`, the `X`
is left and what comes out is no address.

* `NonzeroWord`: the words that are not zero.
* `slotAddress?_eq_none_iff`: the words whose cut goes through a character.
* `slotAddress?_eq_some`: what is taken out of a word of ASCII characters, as all words are that are
  not zero.
* `IsAddressOf`, `wordValue`: the address of a number, and the number in a word.
* `exists_isAddressOf_iff`: the words that are not zero and hold the address of their number.
-/

namespace ContractLens

/-! ## Words that are not zero -/

/-- A word that is not zero: `0x` or `0X` and hex digits, not all of them `0`. -/
def NonzeroWord (word : String) : Prop :=
  ∃ digits, (word.toList = '0' :: 'x' :: digits ∨ word.toList = '0' :: 'X' :: digits) ∧
    (∀ c ∈ digits, Hex.isDigit c = true) ∧ ∃ c ∈ digits, c ≠ '0'

theorem isNonzeroWord_iff (word : String) : isNonzeroWord word = true ↔ NonzeroWord word := by
  unfold isNonzeroWord NonzeroWord
  split
  · next digits heq => simp [heq]
  · next digits heq => simp [heq]
  · next hx hX =>
    refine iff_of_false Bool.false_ne_true ?_
    rintro ⟨digits, heq | heq, -⟩
    · exact hx digits heq
    · exact hX digits heq

instance : DecidablePred NonzeroWord := fun word => decidable_of_iff _ (isNonzeroWord_iff word)

/-- All of its characters are ASCII. -/
theorem NonzeroWord.ascii {word : String} (h : NonzeroWord word) :
    ∀ c ∈ word.toList, c.toNat < 0x80 := by
  obtain ⟨digits, hword, hdigits, -⟩ := h
  intro c hc
  obtain hword | hword := hword <;>
  · rw [hword, List.mem_cons, List.mem_cons] at hc
    obtain rfl | rfl | hc := hc
    · decide
    · decide
    · exact (Hex.ascii_of_isDigit (hdigits c hc)).1

/-! ## Cuts -/

theorem utf8Length_cons (c : Char) (cs : List Char) :
    utf8Length (c :: cs) = c.utf8Size + utf8Length cs := rfl

/-- The characters behind the first bytes are those behind a front of so many bytes. -/
theorem dropBytes?_eq_some_iff {cs back : List Char} {excess : ℕ} (h : excess ≤ utf8Length cs) :
    dropBytes? excess cs = some back ↔
      ∃ front, cs = front ++ back ∧ utf8Length front = excess := by
  induction cs generalizing excess with
  | nil =>
    obtain rfl : excess = 0 := Nat.le_zero.mp h
    rw [dropBytes?, Option.some.injEq]
    constructor
    · rintro rfl
      exact ⟨[], rfl, rfl⟩
    · rintro ⟨front, hfront, -⟩
      exact (List.nil_eq_append_iff.mp hfront).2.symm
  | cons c cs ih =>
    have hpos : 0 < c.utf8Size := c.utf8Size_pos
    cases excess with
    | zero =>
      rw [dropBytes?, Option.some.injEq]
      constructor
      · rintro rfl
        exact ⟨[], rfl, rfl⟩
      · rintro ⟨front, hfront, hlength⟩
        cases front with
        | nil => exact hfront
        | cons d front =>
          rw [utf8Length_cons] at hlength
          have hd : 0 < d.utf8Size := d.utf8Size_pos
          omega
    | succ excess =>
      rw [utf8Length_cons] at h
      rw [dropBytes?]
      split_ifs with hsize
      · rw [ih (by omega)]
        constructor
        · rintro ⟨front, rfl, hlength⟩
          exact ⟨c :: front, rfl, by rw [utf8Length_cons]; omega⟩
        · rintro ⟨front, hfront, hlength⟩
          cases front with
          | nil => cases hlength
          | cons d front =>
            rw [List.cons_append, List.cons.injEq] at hfront
            obtain ⟨rfl, rfl⟩ := hfront
            rw [utf8Length_cons] at hlength
            exact ⟨front, rfl, by omega⟩
      · refine iff_of_false not_false ?_
        rintro ⟨front, hfront, hlength⟩
        cases front with
        | nil => cases hlength
        | cons d front =>
          rw [List.cons_append, List.cons.injEq] at hfront
          obtain ⟨rfl, -⟩ := hfront
          rw [utf8Length_cons] at hlength
          omega

/-- The cut forty bytes before the end of a word goes through a character. -/
def CutsCharacter (word : String) : Prop :=
  ∀ front back, (Hex.stripMarker word).toList = front ++ back →
    utf8Length front ≠ utf8Length (Hex.stripMarker word).toList - 40

theorem slotAddress?_eq_none_iff {word : String} :
    slotAddress? word = none ↔ CutsCharacter word := by
  rw [slotAddress?, Option.map_eq_none_iff, Option.eq_none_iff_forall_ne_some]
  simp only [ne_eq, dropBytes?_eq_some_iff (Nat.sub_le _ _), not_exists, not_and]
  exact ⟨fun h front back => h back front, fun h back front => h front back⟩

/-! ## Words of ASCII characters -/

/-- Every character takes a byte. -/
theorem utf8Length_of_ascii {cs : List Char} (h : ∀ c ∈ cs, c.toNat < 0x80) :
    utf8Length cs = cs.length := by
  induction cs with
  | nil => rfl
  | cons c cs ih =>
    obtain ⟨hc, hcs⟩ := List.forall_mem_cons.mp h
    have hsize : c.utf8Size = 1 := Char.utf8Size_eq_one_iff.mpr (Nat.le_of_lt_succ hc)
    rw [utf8Length_cons, hsize, ih hcs, List.length_cons, Nat.add_comm]

theorem ascii_stripMarker {word : String} (h : ∀ c ∈ word.toList, c.toNat < 0x80) :
    ∀ c ∈ (Hex.stripMarker word).toList, c.toNat < 0x80 := by
  unfold Hex.stripMarker
  split
  · next rest heq =>
    intro c hc
    rw [String.toList_ofList] at hc
    exact h c (by rw [heq]; exact List.mem_cons_of_mem _ (List.mem_cons_of_mem _ hc))
  · exact h

/-- The last forty characters of a word in lower case, with zeros in front of fewer ones. -/
theorem slotAddress?_eq_some {word : String} (h : ∀ c ∈ word.toList, c.toNat < 0x80)
    {cs : List Char} (hcs : (Hex.stripMarker word).toList = cs) :
    slotAddress? word = some ("0x" ++ String.ofList (List.replicate (40 - cs.length) '0' ++
      (cs.drop (cs.length - 40)).map Char.toLower)) := by
  have hascii := ascii_stripMarker h
  rw [hcs] at hascii
  have hlength := utf8Length_of_ascii hascii
  have hdrop : dropBytes? (utf8Length cs - 40) cs = some (cs.drop (cs.length - 40)) := by
    rw [dropBytes?_eq_some_iff (Nat.sub_le _ _), hlength]
    refine ⟨cs.take (cs.length - 40), (List.take_append_drop _ _).symm, ?_⟩
    rw [utf8Length_of_ascii fun c hc => hascii c (List.mem_of_mem_take hc), List.length_take]
    omega
  have htail : ∀ c ∈ (String.ofList (cs.drop (cs.length - 40))).toList, c.toNat < 0x80 := by
    intro c hc
    rw [String.toList_ofList] at hc
    exact hascii c (List.mem_of_mem_drop hc)
  have hzeros : 40 - (cs.drop (cs.length - 40)).length = 40 - cs.length := by
    rw [List.length_drop]
    omega
  rw [slotAddress?, hcs, hdrop, Option.map_some]
  simp only [LetterCase.lower_eq_asciiLower htail, LetterCase.toList_asciiLower,
    String.toList_ofList, List.length_map, hzeros]

/-- A word that is not zero holds an address. -/
theorem exists_slotAddress? {word : String} (h : NonzeroWord word) :
    ∃ address, slotAddress? word = some address := ⟨_, slotAddress?_eq_some h.ascii rfl⟩

/-! ## Addresses of numbers -/

/-- A text is the address of a number: `0x` and forty lower-case hex digits that stand for it. -/
def IsAddressOf (address : String) (n : ℕ) : Prop :=
  ∃ digits, address.toList = '0' :: 'x' :: digits ∧ digits.length = 40 ∧
    (∀ c ∈ digits, ∃ m < 16, c = Hex.digit m) ∧ Hex.value digits = n

theorem IsAddressOf.isAddress {address : String} {n : ℕ} (h : IsAddressOf address n) :
    IsAddress address := by
  obtain ⟨digits, haddress, hlength, hdigits, -⟩ := h
  refine ⟨digits, haddress, hlength, ?_⟩
  intro c hc
  obtain ⟨m, hm, rfl⟩ := hdigits c hc
  rw [Hex.isDigit, Hex.digitValue?_digit hm, Option.isSome_some]

/-- The number in a word, whose digits stand behind the first two characters. -/
def wordValue (word : String) : ℕ := Hex.value (word.toList.drop 2)

/-- A word has fewer than forty digits behind `0X`. -/
def ShortUppercase (word : String) : Prop :=
  ∃ digits, word.toList = '0' :: 'X' :: digits ∧ digits.length < 40

/-- The last forty of some digits, or all of them behind zeros, are the address of their number. -/
theorem isAddressOf_of_digits {digits : List Char} (h : ∀ c ∈ digits, Hex.isDigit c = true) :
    IsAddressOf ("0x" ++ String.ofList (List.replicate (40 - digits.length) '0' ++
      (digits.drop (digits.length - 40)).map Char.toLower)) (Hex.value digits % 2 ^ 160) := by
  refine ⟨_, Hex.toList_marked _, ?_, ?_, ?_⟩
  · rw [List.length_append, List.length_replicate, List.length_map, List.length_drop]
    omega
  · intro c hc
    obtain hc | hc := List.mem_append.mp hc
    · exact ⟨0, by norm_num, List.eq_of_mem_replicate hc⟩
    · obtain ⟨d, hd, rfl⟩ := List.mem_map.mp hc
      exact Hex.exists_digit_of_isDigit (h d (List.mem_of_mem_drop hd))
  · rw [Hex.value_zeros_append, Hex.value_map_toLower, Hex.value_drop]
    norm_num

/-- With an `x` among its characters nothing is an address but for the one in front. -/
theorem not_isAddress_of_mem {cs : List Char} (h : 'x' ∈ cs) :
    ¬IsAddress ("0x" ++ String.ofList cs) := by
  rintro ⟨digits, haddress, -, hdigits⟩
  rw [Hex.toList_marked] at haddress
  obtain rfl : cs = digits := (List.cons.inj (List.cons.inj haddress).2).2
  exact absurd (hdigits 'x' h) (by decide)

/-- What stands behind the marker `0x`: the digits, or all of the word if it starts with `0X`. -/
theorem NonzeroWord.exists_digits {word : String} (h : NonzeroWord word) :
    ∃ digits, (∀ c ∈ digits, Hex.isDigit c = true) ∧ wordValue word = Hex.value digits ∧
      ((Hex.stripMarker word).toList = digits ∧ ¬ShortUppercase word ∨
        (Hex.stripMarker word).toList = '0' :: 'X' :: digits ∧
          (ShortUppercase word ↔ digits.length < 40)) := by
  obtain ⟨digits, hword | hword, hdigits, -⟩ := h
  · refine ⟨digits, hdigits, by rw [wordValue, hword]; rfl, Or.inl ⟨?_, ?_⟩⟩
    · rw [Hex.stripMarker, hword]
      exact String.toList_ofList
    · rintro ⟨digits', hword', -⟩
      rw [hword] at hword'
      exact absurd (List.cons.inj (List.cons.inj hword').2).1 (by decide)
  · refine ⟨digits, hdigits, by rw [wordValue, hword]; rfl, Or.inr ⟨?_, ?_⟩⟩
    · rw [Hex.stripMarker, hword]
      exact hword
    · constructor
      · rintro ⟨digits', hword', hshort⟩
        rw [hword] at hword'
        exact (List.cons.inj (List.cons.inj hword').2).2 ▸ hshort
      · exact fun hshort => ⟨digits, hword, hshort⟩

/-- Unless fewer than forty digits stand behind `0X`, a word holds the address of its number. -/
theorem exists_isAddressOf {word : String} (h : NonzeroWord word) (hshort : ¬ShortUppercase word) :
    ∃ address, slotAddress? word = some address ∧
      IsAddressOf address (wordValue word % 2 ^ 160) := by
  obtain ⟨digits, hdigits, hvalue, ⟨hstrip, -⟩ | ⟨hstrip, hshort'⟩⟩ := h.exists_digits
  · refine ⟨_, slotAddress?_eq_some h.ascii hstrip, ?_⟩
    rw [hvalue]
    exact isAddressOf_of_digits hdigits
  · refine ⟨_, slotAddress?_eq_some h.ascii hstrip, ?_⟩
    -- the two characters in front of the digits are cut off
    have hlong : 40 ≤ digits.length := not_lt.mp (mt hshort'.mpr hshort)
    have hlength : ('0' :: 'X' :: digits).length = digits.length + 2 := rfl
    have hzeros : 40 - (digits.length + 2) = 40 - digits.length := by omega
    have hcut : digits.length + 2 - 40 = digits.length - 40 + 2 := by omega
    rw [hvalue, hlength, hzeros, hcut]
    exact isAddressOf_of_digits hdigits

/-- With fewer than forty digits behind `0X` the `X` is left. -/
theorem exists_not_isAddress {word : String} (h : NonzeroWord word) (hshort : ShortUppercase word) :
    ∃ address, slotAddress? word = some address ∧ ¬IsAddress address := by
  obtain ⟨digits, -, -, ⟨-, habsurd⟩ | ⟨hstrip, hshort'⟩⟩ := h.exists_digits
  · exact absurd hshort habsurd
  · refine ⟨_, slotAddress?_eq_some h.ascii hstrip, not_isAddress_of_mem ?_⟩
    have hcut : ('0' :: 'X' :: digits).length - 40 ≤ 1 := by
      have hlength := hshort'.mp hshort
      rw [List.length_cons, List.length_cons]
      omega
    have hkept : 'X' ∈ ('0' :: 'X' :: digits).drop (('0' :: 'X' :: digits).length - 40) := by
      interval_cases ('0' :: 'X' :: digits).length - 40 <;> simp
    exact List.mem_append_right _ (List.mem_map.mpr ⟨'X', hkept, rfl⟩)

/-- A word that is not zero holds the address of its number, unless fewer than forty digits stand
    behind `0X`. Then it holds no address at all. -/
theorem exists_isAddressOf_iff {word : String} (h : NonzeroWord word) :
    ∃ address, slotAddress? word = some address ∧
      (IsAddressOf address (wordValue word % 2 ^ 160) ↔ ¬ShortUppercase word) ∧
      (IsAddress address ↔ ¬ShortUppercase word) := by
  by_cases hshort : ShortUppercase word
  · obtain ⟨address, haddress, hnone⟩ := exists_not_isAddress h hshort
    exact ⟨address, haddress,
      iff_of_false (mt IsAddressOf.isAddress hnone) (not_not.mpr hshort),
      iff_of_false hnone (not_not.mpr hshort)⟩
  · obtain ⟨address, haddress, hof⟩ := exists_isAddressOf h hshort
    exact ⟨address, haddress, iff_of_true hof hshort, iff_of_true hof.isAddress hshort⟩

end ContractLens
