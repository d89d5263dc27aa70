import ContractLens.Json.Printer
import ContractLens.Json.Token
import ContractLens.Proofs.Text.Natural
import Mathlib.Data.List.TakeWhile
import Mathlib.Tactic

/-!
# Tokens of written texts

What the lexer makes of the parts that values are written with. `Reads cs rest ts` says that it gets
from the characters `cs` to `rest` with the tokens `ts`, whatever came before; such steps compose.

* `reads_mark`, `reads_blanks`: punctuation marks and blanks.
* `reads_word`: a number or a word, if what follows does not go on with it.
* `reads_number`: a word of 64 bits in decimal is read as the number that it is.
* `reads_quote`: a string in quotes, with all its escapes.
-/

namespace ContractLens.Json

/-! ## Steps -/

theorem tokensFrom?_cons {state next : Lexing} {c : Char} {ts : List Token}
    (h : step state c = some (ts, next)) (done : List Token) (rest : List Char) :
    tokensFrom? state done (c :: rest) = tokensFrom? next (ts.reverse ++ done) rest := by
  rw [tokensFrom?, h]

/-- Between two tokens the lexer gets from the characters `cs` to `rest` with the tokens `ts`. -/
def Reads (cs rest : List Char) (ts : List Token) : Prop :=
  ∀ done, tokensFrom? .between done cs = tokensFrom? .between (ts.reverse ++ done) rest

variable {cs rest after : List Char} {ts more : List Token}

theorem Reads.trans (h : Reads cs rest ts) (hmore : Reads rest after more) :
    Reads cs after (ts ++ more) := fun done => by
  rw [h, hmore, List.reverse_append, List.append_assoc]

theorem tokens?_of_reads {s : String} (h : Reads s.toList [] ts) : tokens? s = some ts := by
  rw [tokens?, h, List.append_nil, tokensFrom?, finish, Option.map_some, Option.map_some,
    List.reverse_nil, List.nil_append, List.reverse_reverse]

/-! ## Marks and blanks -/

/-- A character that is complete by itself between two tokens. -/
theorem reads_of_start {c : Char} (h : start c = (ts, .between)) (rest : List Char) :
    Reads (c :: rest) rest ts := fun done =>
  tokensFrom?_cons (by rw [step, h]) done rest

theorem reads_mark {c : Char} {t : Token} (hblank : isBlank c = false) (hquote : c ≠ '"')
    (h : punctuation? c = some t) (rest : List Char) : Reads (c :: rest) rest [t] := by
  refine reads_of_start ?_ rest
  rw [start, if_neg (Bool.not_eq_true _ ▸ hblank), if_neg hquote, h]

theorem reads_blanks {blanks : List Char} (h : ∀ c ∈ blanks, isBlank c = true) (rest : List Char) :
    Reads (blanks ++ rest) rest [] := by
  induction blanks with
  | nil => exact fun _ => rfl
  | cons c blanks ih =>
    obtain ⟨hc, hblanks⟩ := List.forall_mem_cons.mp h
    exact (reads_of_start (by rw [start, if_pos hc]) _).trans (ih hblanks)

/-! ## Words and numbers -/

/-- A character that ends a number or a word. -/
def isDelimiter (c : Char) : Bool := isBlank c || c == '"' || (punctuation? c).isSome

/-- A text that goes on neither with a number nor with a word. -/
def StartsApart (cs : List Char) : Prop := ∀ c ∈ cs.head?, isDelimiter c = true

theorem start_of_not_delimiter {c : Char} (h : isDelimiter c = false) :
    start c = ([], .inWord [c]) := by
  rw [isDelimiter, Bool.or_eq_false_iff, Bool.or_eq_false_iff, Option.isSome_eq_false_iff,
    Option.isNone_iff_eq_none, beq_eq_false_iff_ne] at h
  obtain ⟨⟨hblank, hquote⟩, hmark⟩ := h
  rw [start, if_neg (Bool.not_eq_true _ ▸ hblank), if_neg hquote, hmark]

theorem tokensFrom?_inWord {word : List Char} (h : word.any isDelimiter = false)
    (read : List Char) (done : List Token) (rest : List Char) :
    tokensFrom? (.inWord read) done (word ++ rest) =
      tokensFrom? (.inWord (word.reverse ++ read)) done rest := by
  induction word generalizing read with
  | nil => rfl
  | cons c word ih =>
    obtain ⟨hc, hword⟩ := Bool.or_eq_false_iff.mp (List.any_cons.symm.trans h)
    have hstep : step (.inWord read) c = some ([], .inWord (c :: read)) :=
      if_neg (Bool.not_eq_true _ ▸ hc)
    rw [List.cons_append, tokensFrom?_cons hstep, List.reverse_nil, List.nil_append, ih hword,
      List.reverse_cons, List.append_assoc]
    rfl

/-- A word ends where the text does or something else starts. -/
theorem tokensFrom?_wordEnd {read : List Char} {t : Token} (h : wordToken? read.reverse = some t)
    (hrest : StartsApart rest) (done : List Token) :
    tokensFrom? (.inWord read) done rest = tokensFrom? .between (t :: done) rest := by
  cases rest with
  | nil =>
    rw [tokensFrom?, finish, h]
    rfl
  | cons c rest =>
    have hstep : step (.inWord read) c = some (t :: (start c).1, (start c).2) := by
      have hend := hrest c rfl
      rw [isDelimiter] at hend
      rw [step, if_pos hend, h, Option.map_some]
    rw [tokensFrom?_cons hstep, tokensFrom?_cons (by rw [step]), List.reverse_cons,
      List.append_assoc]
    rfl

theorem reads_word {word : List Char} {t : Token} (hne : word ≠ [])
    (hword : word.any isDelimiter = false) (h : wordToken? word = some t)
    (hrest : StartsApart rest) : Reads (word ++ rest) rest [t] := fun done => by
  obtain ⟨c, word, rfl⟩ := List.exists_cons_of_ne_nil hne
  obtain ⟨hc, hword⟩ := Bool.or_eq_false_iff.mp (List.any_cons.symm.trans hword)
  have hend : wordToken? (word.reverse ++ [c]).reverse = some t := by
    rw [List.reverse_append, List.reverse_reverse]
    exact h
  rw [List.cons_append, tokensFrom?_cons (by rw [step, start_of_not_delimiter hc]),
    tokensFrom?_inWord hword, tokensFrom?_wordEnd hend hrest]
  rfl

/-! ## Words of 64 bits in decimal -/

theorem digit_digitChar : ∀ d < 10, Number.digit (Nat.digitChar d) = d := by decide

/-- Decimal digits are taken in up to the number that they stand for. -/
theorem wholeDigits_toDigits {n : ℕ} (h : n < Nat.pow 2 64) (rest : List Char) :
    Number.wholeDigits 0 (Nat.toDigits 10 n ++ rest) = Number.wholeDigits n rest := by
  induction n using Nat.strong_induction_on generalizing rest with
  | _ n ih =>
    by_cases hn : n < 10
    · have hdigit : 10 * 0 + Number.digit (Nat.digitChar n) = n := by
        rw [digit_digitChar n hn, Nat.mul_zero, Nat.zero_add]
      rw [Nat.toDigits_of_lt_base hn, List.singleton_append, Number.wholeDigits, hdigit, if_pos h]
    · have hdigit : 10 * (n / 10) + Number.digit (Nat.digitChar (n % 10)) = n := by
        rw [digit_digitChar _ (Nat.mod_lt n (by decide)), Nat.div_add_mod]
      rw [Nat.toDigits_of_base_le (by decide) (not_lt.mp hn), List.append_assoc,
        ih (n / 10) (by omega) (by omega), List.singleton_append, Number.wholeDigits, hdigit,
        if_pos h]

/-- The digits of a word of 64 bits stand for this number. -/
theorem ofChars?_toDigits {n : ℕ} (h : n < Nat.pow 2 64) :
    Number.ofChars? (Nat.toDigits 10 n) = some (.int n) := by
  have hspan : Number.spanDigits (Nat.toDigits 10 n) = (Nat.toDigits 10 n, []) := by
    rw [Number.spanDigits, List.dropWhile_eq_nil_iff.mpr fun c hc => Natural.isDigit_of_mem hc]
    congr 1
    exact List.takeWhile_eq_self_iff.mpr fun c hc => Natural.isDigit_of_mem hc
  have hwhole : Number.wholeDigits 0 (Nat.toDigits 10 n) = (n, 0) := by
    have htaken := wholeDigits_toDigits h []
    rwa [List.append_nil] at htaken
  obtain ⟨c, cs, hcs, hzero⟩ := Natural.toDigits_eq_cons n
  have hsign : c ≠ '-' := by
    rintro rfl
    exact absurd (Natural.isDigit_of_mem (hcs ▸ List.mem_cons_self)) (by decide)
  have hleading : ∀ d ds, c :: cs ≠ '0' :: d :: ds := by
    rintro d ds heq
    obtain ⟨rfl, rfl⟩ := List.cons.inj heq
    rw [hzero rfl] at hcs
    cases hcs
  rw [hcs] at hspan hwhole ⊢
  -- there are digits, without a needless zero in front, and nothing comes behind them
  have hunsigned : Number.ofUnsigned? false (c :: cs) = some (.int n) := by
    rw [Number.ofUnsigned?, hspan]
    split
    · rename_i heq
      cases heq
    · rename_i heq
      exact absurd (Prod.mk.inj heq).1 (hleading _ _)
    · rename_i heq
      obtain ⟨rfl, rfl⟩ := Prod.mk.inj heq
      rw [hwhole]
      rfl
  rw [Number.ofChars?.eq_def]
  split
  · rename_i heq
    exact absurd (List.cons.inj heq).1 hsign
  · exact hunsigned

theorem not_isDelimiter_of_isDigit {c : Char} (h : c.isDigit = true) : isDelimiter c = false := by
  have hall : ∀ k < 58, 48 ≤ k → isDelimiter (Char.ofNat k) = false := by decide
  have hrange := Natural.toNat_of_isDigit h
  have hc := hall c.toNat (by omega) hrange.1
  rwa [Char.ofNat_toNat] at hc

theorem wordToken?_toDigits {n : ℕ} (h : n < Nat.pow 2 64) :
    wordToken? (Nat.toDigits 10 n) = some (.number (.int n)) := by
  have hne : ∀ c cs, c.isDigit = false → Nat.toDigits 10 n ≠ c :: cs := by
    intro c cs hc heq
    have hdigit := Natural.isDigit_of_mem (heq ▸ List.mem_cons_self)
    rw [hc] at hdigit
    cases hdigit
  have htrue : Nat.toDigits 10 n ≠ "true".toList := hne 't' _ rfl
  have hfalse : Nat.toDigits 10 n ≠ "false".toList := hne 'f' _ rfl
  have hnull : Nat.toDigits 10 n ≠ "null".toList := hne 'n' _ rfl
  rw [wordToken?, if_neg htrue, if_neg hfalse, if_neg hnull, ofChars?_toDigits h, Option.map_some]

theorem reads_number {n : ℕ} (h : n < Nat.pow 2 64) (hrest : StartsApart rest) :
    Reads ((toString (n : ℤ)).toList ++ rest) rest [.number (.int n)] := by
  obtain ⟨c, cs, hcs, -⟩ := Natural.toDigits_eq_cons n
  have htext : (toString (n : ℤ)).toList = Nat.toDigits 10 n := Nat.toList_repr
  have hdigits : (Nat.toDigits 10 n).any isDelimiter = false := by
    refine List.any_eq_false.mpr fun c hc => ?_
    rw [not_isDelimiter_of_isDigit (Natural.isDigit_of_mem hc)]
    exact Bool.false_ne_true
  rw [htext]
  refine reads_word ?_ hdigits (wordToken?_toDigits h) hrest
  rw [hcs]
  exact List.cons_ne_nil c cs

/-! ## Strings -/

/-- A backslash and a letter stand for one character. -/
theorem tokensFrom?_escape {letter c : Char} (hletter : letter ≠ 'u')
    (h : unescape? letter = some c) (read : List Part) (done : List Token) (rest : List Char) :
    tokensFrom? (.inString read) done ('\\' :: letter :: rest) =
      tokensFrom? (.inString (.char c :: read)) done rest := by
  have hstep : step (.escaped read) letter = some ([], .inString (.char c :: read)) := by
    rw [step, if_neg hletter, h]
    rfl
  have hback : step (.inString read) '\\' = some ([], .escaped read) := rfl
  rw [tokensFrom?_cons hback, tokensFrom?_cons hstep]
  rfl

/-- A control character may be written with its code. -/
theorem tokensFrom?_code {n : ℕ} (h : n < 0x20) (read : List Part) (done : List Token)
    (rest : List Char) :
    tokensFrom? (.inString read) done
        (['\\', 'u', '0', '0', Nat.digitChar (n / 16), Nat.digitChar (n % 16)] ++ rest) =
      tokensFrom? (.inString (.code n :: read)) done rest := by
  have hdigit : ∀ d < 16, codeDigit? (Nat.digitChar d) = some d := by decide
  have hhigh : step (.codeDigits read 2 0) (Nat.digitChar (n / 16)) =
      some ([], .codeDigits read 3 (n / 16)) := by
    rw [step, hdigit _ (by omega), Option.map_some, if_pos (by decide), Nat.zero_add]
  have hlow : step (.codeDigits read 3 (n / 16)) (Nat.digitChar (n % 16)) =
      some ([], .inString (.code n :: read)) := by
    rw [step, hdigit _ (by omega), Option.map_some, if_neg (by decide), Nat.div_add_mod]
  calc tokensFrom? (.inString read) done
        (['\\', 'u', '0', '0', Nat.digitChar (n / 16), Nat.digitChar (n % 16)] ++ rest)
      = tokensFrom? (.codeDigits read 2 0) done
          (Nat.digitChar (n / 16) :: Nat.digitChar (n % 16) :: rest) := rfl
    _ = tokensFrom? (.inString (.code n :: read)) done rest := by
      rw [tokensFrom?_cons hhigh, tokensFrom?_cons hlow]
      rfl

/-- A part that stands for a character by itself. -/
def Part.StandsFor (part : Part) (c : Char) : Prop :=
  ∀ parts, joinParts? (part :: parts) = (joinParts? parts).map (c :: ·)

theorem standsFor_char (c : Char) : Part.StandsFor (.char c) c := fun _ => rfl

theorem standsFor_code {c : Char} (h : c.toNat < 0x20) : Part.StandsFor (.code c.toNat) c := by
  have hhigh : isHighSurrogate c.toNat = false := by
    rw [isHighSurrogate, decide_eq_false (by omega), Bool.false_and]
  have hlow : isLowSurrogate c.toNat = false := by
    rw [isLowSurrogate, decide_eq_false (by omega), Bool.false_and]
  intro parts
  match parts with
  | [] | .char _ :: _ | .code _ :: _ => simp [joinParts?, hhigh, hlow, Char.ofNat_toNat]

/-- Inside a string, an escaped character is read as a part that stands for it. -/
theorem tokensFrom?_escapeChar (c : Char) : ∃ part : Part, part.StandsFor c ∧
    ∀ read done rest, tokensFrom? (.inString read) done (escapeChar c ++ rest) =
      tokensFrom? (.inString (part :: read)) done rest := by
  have hshort : ∀ letter, letter ≠ 'u' → unescape? letter = some c → ∃ part : Part,
      part.StandsFor c ∧ ∀ read done rest,
        tokensFrom? (.inString read) done ('\\' :: letter :: rest) =
          tokensFrom? (.inString (part :: read)) done rest := fun letter hletter h =>
    ⟨.char c, standsFor_char c, tokensFrom?_escape hletter h⟩
  unfold escapeChar
  split_ifs with hquote hback hb hf hn hr ht hcontrol
  · exact hshort '"' (by decide) (by rw [hquote]; rfl)
  · exact hshort '\\' (by decide) (by rw [hback]; rfl)
  · exact hshort 'b' (by decide) (by rw [hb]; rfl)
  · exact hshort 'f' (by decide) (by rw [hf]; rfl)
  · exact hshort 'n' (by decide) (by rw [hn]; rfl)
  · exact hshort 'r' (by decide) (by rw [hr]; rfl)
  · exact hshort 't' (by decide) (by rw [ht]; rfl)
  · exact ⟨.code c.toNat, standsFor_code hcontrol, tokensFrom?_code hcontrol⟩
  · -- any other character stands for itself
    refine ⟨.char c, standsFor_char c, fun read done rest => ?_⟩
    have hstep : step (.inString read) c = some ([], .inString (.char c :: read)) := by
      rw [step, if_neg hquote, if_neg hback, if_neg hcontrol]
    exact tokensFrom?_cons hstep done rest

/-- So is an escaped text as parts that stand for it. -/
theorem tokensFrom?_escaped (cs : List Char) : ∃ parts, joinParts? parts = some cs ∧
    ∀ read done rest, tokensFrom? (.inString read) done (cs.flatMap escapeChar ++ rest) =
      tokensFrom? (.inString (parts.reverse ++ read)) done rest := by
  induction cs with
  | nil => exact ⟨[], rfl, fun _ _ _ => rfl⟩
  | cons c cs ih =>
    obtain ⟨part, hpart, hread⟩ := tokensFrom?_escapeChar c
    obtain ⟨parts, hparts, hreads⟩ := ih
    refine ⟨part :: parts, by rw [hpart, hparts]; rfl, fun read done rest => ?_⟩
    rw [List.flatMap_cons, List.append_assoc, hread, hreads, List.reverse_cons, List.append_assoc]
    rfl

theorem reads_quote (s : String) (rest : List Char) :
    Reads ((quote s).toList ++ rest) rest [.string (some s)] := fun done => by
  obtain ⟨parts, hparts, hread⟩ := tokensFrom?_escaped s.toList
  have hopen : step .between '"' = some ([], .inString []) := rfl
  have hclose : step (.inString (parts.reverse ++ [])) '"' =
      some ([.string (some s)], .between) := by
    rw [step, if_pos rfl, List.append_nil, List.reverse_reverse, stringToken, hparts,
      Option.map_some, String.ofList_toList]
  rw [quote, String.toList_ofList, List.cons_append, List.cons_append, List.append_assoc,
    tokensFrom?_cons hopen, hread, List.singleton_append, tokensFrom?_cons hclose]
  rfl

end ContractLens.Json
