import ContractLens.Proofs.Json.Reader
import ContractLens.Proofs.Json.Token

/-!
# Written values

Both ways to write a plain value give a text with the tokens of the value, so what is written is
read again as the same value. The inductions follow the value; as the printers put the pieces of a
value in front of those that come behind it, what is shown is how the lexer gets from the former to
the latter.

* `Plain.spells_compact`, `Plain.spells_pretty`: the tokens of a written value.
* `Plain.parseReadable?_text`: a plain value is read again, also with blanks behind it.
-/

namespace ContractLens.Json

/-! ## Pieces -/

/-- The characters of pieces and of what comes behind them. -/
def written (pieces : List String) (tail : List Char) : List Char :=
  pieces.flatMap String.toList ++ tail

variable {tail : List Char}

theorem written_cons (piece : String) (pieces : List String) :
    written (piece :: pieces) tail = piece.toList ++ written pieces tail := by
  rw [written, List.flatMap_cons, List.append_assoc]
  rfl

/-- The pieces that are put in front of others have these tokens, if what comes behind them does not
    go on with a number or a word. -/
def Spells (pieces : List String → List String) (tail : List Char) (ts : List Token) : Prop :=
  ∀ rest, StartsApart (written rest tail) →
    Reads (written (pieces rest) tail) (written rest tail) ts

theorem startsApart_cons {c : Char} (h : isDelimiter c = true) (cs : List Char) :
    StartsApart (c :: cs) := by
  intro d hd
  obtain rfl := Option.some.inj hd
  exact h

theorem reads_empty (pieces : List String) :
    Reads (written ("" :: pieces) tail) (written pieces tail) [] := fun done => by
  rw [written_cons]
  rfl

theorem reads_openArray (pieces : List String) :
    Reads (written ("[" :: pieces) tail) (written pieces tail) [.openArray] :=
  reads_mark rfl (by decide) rfl _

theorem reads_closeArray (pieces : List String) :
    Reads (written ("]" :: pieces) tail) (written pieces tail) [.closeArray] :=
  reads_mark rfl (by decide) rfl _

theorem reads_openObject (pieces : List String) :
    Reads (written ("\x7b" :: pieces) tail) (written pieces tail) [.openObject] :=
  reads_mark rfl (by decide) rfl _

theorem reads_closeObject (pieces : List String) :
    Reads (written ("\x7d" :: pieces) tail) (written pieces tail) [.closeObject] :=
  reads_mark rfl (by decide) rfl _

theorem reads_comma (pieces : List String) :
    Reads (written ("," :: pieces) tail) (written pieces tail) [.comma] :=
  reads_mark rfl (by decide) rfl _

/-- A key with the piece behind it, which is a colon and perhaps blanks. -/
theorem reads_key {colon : String} (hcolon : ∀ rest, Reads (colon.toList ++ rest) rest [.colon])
    (key : String) (pieces : List String) :
    Reads (written (quote key :: colon :: pieces) tail) (written pieces tail)
      [.string (some key), .colon] := by
  rw [written_cons, written_cons]
  exact (reads_quote key _).trans (hcolon _)

theorem reads_colon (rest : List Char) : Reads (":".toList ++ rest) rest [.colon] :=
  reads_mark rfl (by decide) rfl rest

theorem reads_colonBlank (rest : List Char) : Reads (": ".toList ++ rest) rest [.colon] :=
  (reads_mark rfl (by decide) rfl (' ' :: rest)).trans (reads_of_start rfl rest)

/-- The text of a value that holds no others. -/
theorem spells_scalar {value : Json} {ts : List Token}
    (h : ∀ rest, StartsApart rest → Reads ((scalarText value).toList ++ rest) rest ts) :
    Spells (fun rest => scalarText value :: rest) tail ts := fun rest hrest => by
  rw [written_cons]
  exact h _ hrest

theorem reads_null {rest : List Char} (h : StartsApart rest) :
    Reads ((scalarText null).toList ++ rest) rest (toTokens null) :=
  reads_word (by decide) (by decide) rfl h

theorem reads_bool {rest : List Char} (b : Bool) (h : StartsApart rest) :
    Reads ((scalarText (bool b)).toList ++ rest) rest (toTokens (bool b)) := by
  cases b with
  | false => exact reads_word (by decide) (by decide) rfl h
  | true => exact reads_word (by decide) (by decide) rfl h

theorem reads_ofWord {rest : List Char} (n : UInt64) (h : StartsApart rest) :
    Reads ((scalarText (ofWord n)).toList ++ rest) rest (toTokens (ofWord n)) :=
  reads_number n.toNat_lt h

/-! ## One line -/

theorem startsApart_compactItems (items : List Json) (rest : List String) :
    StartsApart (written (compactItems items ("]" :: rest)) tail) := by
  cases items
  · exact startsApart_cons (c := ']') rfl _
  · exact startsApart_cons (c := ',') rfl _

theorem reads_compactItems {items : List Json}
    (h : ∀ item ∈ items, Spells (compactPieces item) tail item.toTokens) (rest : List String) :
    Reads (written (compactItems items ("]" :: rest)) tail) (written rest tail)
      (itemTokens items) := by
  induction items with
  | nil => exact reads_closeArray _
  | cons item items ih =>
    obtain ⟨hitem, hitems⟩ := List.forall_mem_cons.mp h
    exact (reads_comma _).trans
      ((hitem _ (startsApart_compactItems items rest)).trans (ih hitems))

theorem startsApart_compactFields (fields : List (String × Json)) (rest : List String) :
    StartsApart (written (compactFields "," fields ("\x7d" :: rest)) tail) := by
  cases fields
  · exact startsApart_cons (c := '}') rfl _
  · exact startsApart_cons (c := ',') rfl _

theorem reads_compactFields {fields : List (String × Json)}
    (h : ∀ field ∈ fields, Spells (compactPieces field.2) tail field.2.toTokens)
    (rest : List String) :
    Reads (written (compactFields "," fields ("\x7d" :: rest)) tail) (written rest tail)
      (fieldTokens fields) := by
  induction fields with
  | nil => exact reads_closeObject _
  | cons field fields ih =>
    obtain ⟨key, value⟩ := field
    obtain ⟨hvalue, hfields⟩ := List.forall_mem_cons.mp h
    rw [compactFields]
    exact (reads_comma _).trans ((reads_key reads_colon key _).trans
      ((hvalue _ (startsApart_compactFields fields rest)).trans (ih hfields)))

/-- The tokens of a plain value on one line. -/
theorem Plain.spells_compact {value : Json} (h : Plain value) :
    Spells (compactPieces value) tail value.toTokens := by
  induction h with
  | null => exact spells_scalar fun _ hrest => reads_null hrest
  | bool b => exact spells_scalar fun _ hrest => reads_bool b hrest
  | word n => exact spells_scalar fun _ hrest => reads_ofWord n hrest
  | str s => exact spells_scalar fun rest _ => reads_quote s rest
  | @arr items _ ih =>
    intro rest _
    cases items with
    | nil =>
      exact (reads_openArray _).trans
        (reads_closeArray _)
    | cons item items =>
      obtain ⟨hitem, hitems⟩ := List.forall_mem_cons.mp ih
      exact (reads_openArray _).trans
        ((hitem _ (startsApart_compactItems items rest)).trans (reads_compactItems hitems rest))
  | @obj fields _ ih =>
    intro rest _
    cases fields with
    | nil =>
      exact (reads_openObject _).trans
        (reads_closeObject _)
    | cons field fields =>
      obtain ⟨key, value⟩ := field
      obtain ⟨hvalue, hfields⟩ := List.forall_mem_cons.mp ih
      -- in front of the first field stands an empty separator
      rw [compactPieces, compactFields]
      exact (reads_openObject _).trans ((reads_empty _).trans ((reads_key reads_colon key _).trans
        ((hvalue _ (startsApart_compactFields fields rest)).trans
          (reads_compactFields hfields rest))))

/-! ## Indented lines -/

theorem isBlank_of_mem_newLine {depth : ℕ} {c : Char} (h : c ∈ (newLine depth).toList) :
    isBlank c = true := by
  rw [newLine, String.toList_ofList] at h
  rcases List.mem_cons.mp h with rfl | h
  · rfl
  · rw [List.eq_of_mem_replicate h]
    rfl

theorem reads_newLine (depth : ℕ) (pieces : List String) :
    Reads (written (newLine depth :: pieces) tail) (written pieces tail) [] := by
  rw [written_cons]
  exact reads_blanks (fun _ => isBlank_of_mem_newLine) _

theorem startsApart_newLine (depth : ℕ) (pieces : List String) :
    StartsApart (written (newLine depth :: pieces) tail) := by
  rw [written_cons, newLine, String.toList_ofList]
  exact startsApart_cons rfl _

/-- An indented value. -/
def SpellsPretty (value : Json) (tail : List Char) : Prop :=
  ∀ depth, Spells (prettyPieces depth value) tail value.toTokens

theorem startsApart_prettyItems (depth : ℕ) (items : List Json) (rest : List String) :
    StartsApart (written (prettyItems depth items (newLine depth :: rest)) tail) := by
  cases items
  · exact startsApart_newLine depth _
  · exact startsApart_cons (c := ',') rfl _

theorem reads_prettyItems {items : List Json} (h : ∀ item ∈ items, SpellsPretty item tail)
    (depth : ℕ) (rest : List String) :
    Reads (written (prettyItems depth items (newLine depth :: "]" :: rest)) tail)
      (written rest tail) (itemTokens items) := by
  induction items with
  | nil => exact (reads_newLine depth _).trans (reads_closeArray _)
  | cons item items ih =>
    obtain ⟨hitem, hitems⟩ := List.forall_mem_cons.mp h
    exact (reads_comma _).trans ((reads_newLine (depth + 1) _).trans
      ((hitem _ _ (startsApart_prettyItems depth items _)).trans (ih hitems)))

theorem startsApart_prettyFields (depth : ℕ) (fields : List (String × Json)) (rest : List String) :
    StartsApart (written (prettyFields depth fields (newLine depth :: rest)) tail) := by
  cases fields
  · exact startsApart_newLine depth _
  · exact startsApart_cons (c := ',') rfl _

theorem reads_prettyFields {fields : List (String × Json)}
    (h : ∀ field ∈ fields, SpellsPretty field.2 tail) (depth : ℕ) (rest : List String) :
    Reads (written (prettyFields depth fields (newLine depth :: "\x7d" :: rest)) tail)
      (written rest tail) (fieldTokens fields) := by
  induction fields with
  | nil => exact (reads_newLine depth _).trans (reads_closeObject _)
  | cons field fields ih =>
    obtain ⟨key, value⟩ := field
    obtain ⟨hvalue, hfields⟩ := List.forall_mem_cons.mp h
    exact (reads_comma _).trans ((reads_newLine (depth + 1) _).trans
      ((reads_key reads_colonBlank key _).trans
        ((hvalue _ _ (startsApart_prettyFields depth fields _)).trans (ih hfields))))

/-- The tokens of a plain value on indented lines. -/
theorem Plain.spells_pretty {value : Json} (h : Plain value) : SpellsPretty value tail := by
  induction h with
  | null => exact fun _ => spells_scalar fun _ hrest => reads_null hrest
  | bool b => exact fun _ => spells_scalar fun _ hrest => reads_bool b hrest
  | word n => exact fun _ => spells_scalar fun _ hrest => reads_ofWord n hrest
  | str s => exact fun _ => spells_scalar fun rest _ => reads_quote s rest
  | @arr items _ ih =>
    intro depth rest _
    cases items with
    | nil =>
      exact (reads_openArray _).trans
        (reads_closeArray _)
    | cons item items =>
      obtain ⟨hitem, hitems⟩ := List.forall_mem_cons.mp ih
      exact (reads_openArray _).trans
        ((reads_newLine (depth + 1) _).trans
          ((hitem _ _ (startsApart_prettyItems depth items _)).trans
            (reads_prettyItems hitems depth rest)))
  | @obj fields _ ih =>
    intro depth rest _
    cases fields with
    | nil =>
      exact (reads_openObject _).trans
        (reads_closeObject _)
    | cons field fields =>
      obtain ⟨key, value⟩ := field
      obtain ⟨hvalue, hfields⟩ := List.forall_mem_cons.mp ih
      exact (reads_openObject _).trans
        ((reads_newLine (depth + 1) _).trans ((reads_key reads_colonBlank key _).trans
          ((hvalue _ _ (startsApart_prettyFields depth fields _)).trans
            (reads_prettyFields hfields depth rest))))

/-! ## Texts -/

theorem toList_join_append (pieces : List String) (s : String) :
    (String.join pieces ++ s).toList = written pieces s.toList := by
  rw [String.toList_append, String.toList_join]
  rfl

/-- Blanks behind a written value do not matter. -/
theorem tokens?_of_spells {pieces : List String → List String} {blanks : String} {ts : List Token}
    (hblanks : ∀ c ∈ blanks.toList, isBlank c = true) (h : Spells pieces blanks.toList ts) :
    tokens? (String.join (pieces []) ++ blanks) = some ts := by
  have hend : Reads blanks.toList [] [] := by
    have hread := reads_blanks hblanks []
    rwa [List.append_nil] at hread
  have hapart : StartsApart (written [] blanks.toList) := by
    intro c hc
    rw [isDelimiter, hblanks c (List.mem_of_mem_head? hc)]
    rfl
  have hreads := (h [] hapart).trans hend
  rw [List.append_nil] at hreads
  refine tokens?_of_reads ?_
  rw [toList_join_append]
  exact hreads

/-- A plain value that is not nested too deeply is read again from its text, whichever way it is
    written and with any blanks behind it. -/
theorem Plain.parseReadable?_text {value : Json} (h : Plain value) (hdepth : value.depth ≤ maxDepth)
    {blanks : String} (hblanks : ∀ c ∈ blanks.toList, isBlank c = true) :
    parseReadable? (value.compact ++ blanks) = some value ∧
      parseReadable? (value.pretty ++ blanks) = some value :=
  ⟨parseReadable?_of_tokens h hdepth (tokens?_of_spells hblanks h.spells_compact),
    parseReadable?_of_tokens h hdepth (tokens?_of_spells hblanks (h.spells_pretty 0))⟩

end ContractLens.Json
