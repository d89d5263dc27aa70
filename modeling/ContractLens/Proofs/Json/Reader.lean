import ContractLens.Json.Reader
import ContractLens.Proofs.Json.Basic

/-!
# Reading what was written

The stack machine builds a value again from its tokens: wherever a value may come next, the tokens
of a plain value that is not nested too deeply complete this value. The induction is on the value;
for an array or object it goes along the items or fields, which pile up in the innermost frame.

* `toTokens`: the tokens of a value.
* `Completes`, `Plain.completes`: the tokens of a plain value complete the value.
* `parseReadable?_of_tokens`: so a text with these tokens is read as the value.
-/

namespace ContractLens.Json

/-! ## Tokens of values -/

mutual

/-- The tokens of a value. -/
def toTokens : Json → List Token
  | null => [.null]
  | bool true => [.true]
  | bool false => [.false]
  | int n => [.number (.int n)]
  | real bits => [.number (.real bits)]
  | str s => [.string (some s)]
  | arr [] => [.openArray, .closeArray]
  | arr (item :: items) => .openArray :: (toTokens item ++ itemTokens items)
  | obj [] => [.openObject, .closeObject]
  | obj ((key, value) :: fields) =>
    .openObject :: .string (some key) :: .colon :: (toTokens value ++ fieldTokens fields)
  | unreadable => []
termination_by structural j => j

/-- The tokens of further items, each behind a comma, with those of the end. -/
def itemTokens : List Json → List Token
  | [] => [.closeArray]
  | item :: items => .comma :: (toTokens item ++ itemTokens items)
termination_by structural items => items

/-- The tokens of further fields, each behind a comma, with those of the end. -/
def fieldTokens : List (String × Json) → List Token
  | [] => [.closeObject]
  | (key, value) :: fields =>
    .comma :: .string (some key) :: .colon :: (toTokens value ++ fieldTokens fields)
termination_by structural fields => fields

end

/-! ## Frames -/

/-- Fields as they pile up in a frame. -/
def readFields (fields : List (String × Json)) : List ReadField :=
  fields.map fun field => (some field.1, field.2)

theorem readFields_append (fields more : List (String × Json)) :
    readFields (fields ++ more) = readFields fields ++ readFields more := List.map_append

theorem mapM_readFields {f : ReadField → Option (String × Json)}
    (hf : ∀ key value, f (some key, value) = some (key, value)) (fields : List (String × Json)) :
    (readFields fields).mapM f = some fields := by
  induction fields with
  | nil => rfl
  | cons field fields ih =>
    rw [readFields, List.map_cons, List.mapM_cons, hf, ← readFields, ih]
    rfl

theorem ofReadFields_readFields (fields : List (String × Json)) :
    ofReadFields (readFields fields) = obj fields := by
  rw [ofReadFields, mapM_readFields fun _ _ => rfl]

variable {stack : List Frame}

theorem isEmpty_drop (h : stack.length < maxDepth) :
    (stack.drop (maxDepth - 1)).isEmpty = true := by
  rw [List.isEmpty_iff, List.drop_eq_nil_iff]
  omega

theorem closed_array (h : stack.length < maxDepth) (items : List Json) :
    closed stack (.array items.reverse) = arr items := by
  rw [closed, if_pos (isEmpty_drop h), List.reverse_reverse]

theorem closed_object (h : stack.length < maxDepth) (fields : List (String × Json))
    (key : Option String) :
    closed stack (.object (readFields fields).reverse key) = obj fields := by
  rw [closed, if_pos (isEmpty_drop h), List.reverse_reverse, ofReadFields_readFields]

/-! ## Values -/

/-- The tokens of a value complete it inside these frames. -/
def Completes (value : Json) (stack : List Frame) : Prop :=
  ∀ rest, Reading.run? ⟨stack, .value⟩ (value.toTokens ++ rest) =
    Reading.run? (.complete stack value) rest

/-- A first item is read like any value. -/
theorem run?_itemOrEnd {value : Json} (h : Plain value) (rest : List Token) :
    Reading.run? ⟨stack, .itemOrEnd⟩ (value.toTokens ++ rest) =
      Reading.run? ⟨stack, .value⟩ (value.toTokens ++ rest) := by
  cases h with
  | null | word | str => rfl
  | bool b => cases b <;> rfl
  | @arr items _ => cases items <;> rfl
  | @obj fields _ => cases fields <;> rfl

/-- Further items join those of the innermost array, which is completed at its end. -/
theorem run?_itemTokens (hstack : stack.length < maxDepth) {items : List Json}
    (hitems : ∀ item ∈ items, ∀ done, Completes item (.array done :: stack)) (done : List Json)
    (rest : List Token) :
    Reading.run? ⟨.array done.reverse :: stack, .more⟩ (itemTokens items ++ rest) =
      Reading.run? (.complete stack (arr (done ++ items))) rest := by
  induction items generalizing done with
  | nil =>
    rw [List.append_nil, ← closed_array hstack done]
    rfl
  | cons item items ih =>
    obtain ⟨hitem, hrest⟩ := List.forall_mem_cons.mp hitems
    -- the first item counts as done for the others
    rw [List.append_cons done, ← ih hrest, List.reverse_append, itemTokens, List.cons_append,
      List.append_assoc]
    exact hitem done.reverse (itemTokens items ++ rest)

/-- Further fields join those of the innermost object, which is completed at its end. -/
theorem run?_fieldTokens (hstack : stack.length < maxDepth) {fields : List (String × Json)}
    (hfields : ∀ field ∈ fields, ∀ done key, Completes field.2 (.object done key :: stack))
    (done : List (String × Json)) (rest : List Token) :
    Reading.run? ⟨.object (readFields done).reverse none :: stack, .more⟩
        (fieldTokens fields ++ rest) =
      Reading.run? (.complete stack (obj (done ++ fields))) rest := by
  induction fields generalizing done with
  | nil =>
    rw [List.append_nil, ← closed_object hstack done none]
    rfl
  | cons field fields ih =>
    obtain ⟨key, value⟩ := field
    obtain ⟨hvalue, hrest⟩ := List.forall_mem_cons.mp hfields
    rw [List.append_cons done, ← ih hrest, readFields_append, List.reverse_append, fieldTokens,
      List.cons_append, List.cons_append, List.cons_append, List.append_assoc]
    exact hvalue (readFields done).reverse (some key) (fieldTokens fields ++ rest)

theorem depth_le_itemsDepth {items : List Json} {item : Json} (h : item ∈ items) :
    item.depth ≤ itemsDepth items := by
  induction items with
  | nil => cases h
  | cons first items ih =>
    rw [itemsDepth]
    rcases List.mem_cons.mp h with rfl | h
    · exact le_max_left _ _
    · exact (ih h).trans (le_max_right _ _)

theorem depth_le_fieldsDepth {fields : List (String × Json)} {field : String × Json}
    (h : field ∈ fields) : field.2.depth ≤ fieldsDepth fields := by
  induction fields with
  | nil => cases h
  | cons first fields ih =>
    rw [fieldsDepth]
    rcases List.mem_cons.mp h with rfl | h
    · exact le_max_left _ _
    · exact (ih h).trans (le_max_right _ _)

/-- The tokens of a plain value complete it wherever it is not nested too deeply. -/
theorem Plain.completes {value : Json} (h : Plain value) (stack : List Frame)
    (hdepth : value.depth + stack.length ≤ maxDepth) : Completes value stack := by
  induction h generalizing stack with
  | null | word | str => exact fun _ => rfl
  | bool b => cases b <;> exact fun _ => rfl
  | @arr items hplain ih =>
    rw [depth] at hdepth
    have hstack : stack.length < maxDepth := by omega
    -- the items have one more frame around them and one level less to go
    have hitems : ∀ item ∈ items, ∀ done, Completes item (.array done :: stack) := by
      intro item hitem done
      have hle := depth_le_itemsDepth hitem
      exact ih item hitem _ (by rw [List.length_cons]; omega)
    intro rest
    cases items with
    | nil =>
      exact congrArg (fun value => Reading.run? (.complete stack value) rest)
        (closed_array hstack [])
    | cons item items =>
      obtain ⟨hitem, hrest⟩ := List.forall_mem_cons.mp hitems
      calc Reading.run? ⟨stack, .value⟩ (toTokens (Json.arr (item :: items)) ++ rest)
          = Reading.run? ⟨.array [] :: stack, .itemOrEnd⟩
              (toTokens item ++ (itemTokens items ++ rest)) := by
            rw [← List.append_assoc]
            rfl
        _ = Reading.run? ⟨.array [item] :: stack, .more⟩ (itemTokens items ++ rest) := by
            rw [run?_itemOrEnd (hplain item List.mem_cons_self)]
            exact hitem [] _
        _ = Reading.run? (.complete stack (Json.arr (item :: items))) rest :=
            run?_itemTokens hstack hrest [item] rest
  | @obj fields hplain ih =>
    rw [depth] at hdepth
    have hstack : stack.length < maxDepth := by omega
    have hfields : ∀ field ∈ fields, ∀ done key, Completes field.2 (.object done key :: stack) := by
      intro field hfield done key
      have hle := depth_le_fieldsDepth hfield
      exact ih field hfield _ (by rw [List.length_cons]; omega)
    intro rest
    cases fields with
    | nil =>
      exact congrArg (fun value => Reading.run? (.complete stack value) rest)
        (closed_object hstack [] none)
    | cons field fields =>
      obtain ⟨key, value⟩ := field
      obtain ⟨hvalue, hrest⟩ := List.forall_mem_cons.mp hfields
      calc Reading.run? ⟨stack, .value⟩ (toTokens (Json.obj ((key, value) :: fields)) ++ rest)
          = Reading.run? ⟨.object [] (some key) :: stack, .value⟩
              (toTokens value ++ (fieldTokens fields ++ rest)) := by
            rw [← List.append_assoc]
            rfl
        _ = Reading.run? ⟨.object [(some key, value)] none :: stack, .more⟩
              (fieldTokens fields ++ rest) := hvalue [] (some key) _
        _ = Reading.run? (.complete stack (Json.obj ((key, value) :: fields))) rest :=
            run?_fieldTokens hstack hrest [(key, value)] rest

/-- A text with the tokens of a plain value is read as this value. -/
theorem parseReadable?_of_tokens {value : Json} (h : Plain value) (hdepth : value.depth ≤ maxDepth)
    {s : String} (hs : tokens? s = some value.toTokens) : parseReadable? s = some value := by
  have hrun : Reading.run? ⟨[], .value⟩ value.toTokens = some ⟨[], .nothing value⟩ := by
    have hcompletes := h.completes [] hdepth []
    rwa [List.append_nil] at hcompletes
  have hparse : parse? s = some value := by
    rw [parse?, hs, Option.bind_some, hrun]
    rfl
  rw [parseReadable?, hparse, Option.filter_some, if_pos h.isReadable]

end ContractLens.Json
