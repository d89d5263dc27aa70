import ContractLens.Proofs.Abi.Layout
import ContractLens.Proofs.Json.Unambiguous
import ContractLens.Proofs.Text.Decimal
import ContractLens.Proofs.Text.Hex
import ContractLens.Value

/-!
# Values as JSON

The JSON of a value leaves out its kind: numbers, byte strings, addresses and texts are all strings,
and arrays and tuples are the same. Still nothing is lost of data whose type is known. An integer is
the string of its exact decimal text, whether it fits 128 bits or not, and of two data of one type
each part is told from its counterpart.

* `Value.plain_toJson`: values are plain, so their texts tell them apart.
* `Value.toJson_ofNat`, `Value.toJson_ofInt`: integers are strings of decimal digits.
* `AbiType.Admits`: the data of a type, of any size.
* `AbiType.Admits.tells`: the JSON of a datum tells it from the others of its type.
* `Value.toJson_lossless`: data are determined by their JSON, integers are exact.
-/

namespace ContractLens

open Abi

/-! ## Plain values -/

mutual

/-- Values are plain, however deeply they are nested. -/
theorem Value.plain_toJson : ∀ v : Value, v.toJson.Plain
  | .bool b => .bool b
  | .null => .null
  | .array items => .arr (plain_listToJson items)
  | .tuple items => .arr (plain_listToJson items)
  | .uint _ | .bigUint _ | .int _ | .bigInt _ | .bytes _ | .str _ | .address _ => .str _
termination_by structural v => v

theorem Value.plain_listToJson : ∀ vs : List Value, ∀ j ∈ Value.listToJson vs, j.Plain
  | [] => List.forall_mem_nil _
  | v :: vs => List.forall_mem_cons.mpr ⟨plain_toJson v, plain_listToJson vs⟩
termination_by structural vs => vs

end

/-! ## Integers -/

/-- A number is the string of its digits on both sides of `2 ^ 128`. -/
theorem Value.toJson_ofNat (n : ℕ) : (ofNat n).toJson = .str (toString n) := by
  rw [ofNat]
  split_ifs <;> rfl

/-- A signed number is the string of its sign and digits inside and outside of 128 bits. -/
theorem Value.toJson_ofInt (n : ℤ) : (ofInt n).toJson = .str (toString n) := by
  rw [ofInt]
  split_ifs <;> rfl

example : (Value.ofInt (-2 ^ 127 - 1)).toJson = .str "-170141183460469231731687303715884105729" :=
  rfl

/-- Numbers are told by their JSON. -/
theorem Value.eq_of_toJson_ofNat {m n : ℕ} (h : (ofNat m).toJson = (ofNat n).toJson) : m = n := by
  have hm := Natural.isDecimal_toString_nat m
  rw [toJson_ofNat, toJson_ofNat] at h
  rw [Json.str.inj h] at hm
  exact_mod_cast hm.unique (Natural.isDecimal_toString_nat n)

theorem Value.eq_of_toJson_ofInt {m n : ℤ} (h : (ofInt m).toJson = (ofInt n).toJson) : m = n := by
  have hm := Natural.isDecimal_toString m
  rw [toJson_ofInt, toJson_ofInt] at h
  rw [Json.str.inj h] at hm
  exact hm.unique (Natural.isDecimal_toString n)

namespace Abi

/-! ## Data of a type -/

/-- A type admits a datum. Sequences may have any number of items, also none, and a byte string of
    fixed size is zero behind its size. -/
inductive AbiType.Admits : AbiType → Datum → Prop
  | bool (b : Bool) : Admits .bool (.bool b)
  | uint {bits n : ℕ} : n < 2 ^ bits → Admits (.uint bits) (.uint n bits)
  | int {bits : ℕ} {n : ℤ} : -2 ^ (bits - 1) ≤ n → n < 2 ^ (bits - 1) →
      Admits (.int bits) (.int n bits)
  | address {raw : List UInt8} : raw.length = 20 → Admits .address (.address raw)
  | fixedBytes {word : List UInt8} {size : ℕ} : word.length = 32 → (∀ b ∈ word.drop size, b = 0) →
      Admits (.fixedBytes size) (.fixedBytes word size)
  | function {raw : List UInt8} : raw.length = 24 → Admits .function (.function raw)
  | bytes (raw : List UInt8) : Admits .bytes (.bytes raw)
  | string (s : String) : Admits .string (.string s)
  | array {t : AbiType} {items : List Datum} : (∀ d ∈ items, Admits t d) →
      Admits (.array t) (.array items)
  | fixedArray {t : AbiType} {count : ℕ} {items : List Datum} : items.length = count →
      (∀ d ∈ items, Admits t d) → Admits (.fixedArray t count) (.fixedArray items)
  | tuple {types : List AbiType} {items : List Datum} : types.length = items.length →
      (∀ t d, (t, d) ∈ types.zip items → Admits t d) → Admits (.tuple types) (.tuple items)

/-- The JSON of a datum tells it from every other datum of the type. -/
def AbiType.Tells (t : AbiType) (d : Datum) : Prop :=
  ∀ w, t.Admits w → (Value.ofDatum d).toJson = (Value.ofDatum w).toJson → d = w

/-! ## Bytes -/

/-- A word that is zero behind its first bytes is known from these. -/
theorem eq_of_take_eq {word word' : List UInt8} {size : ℕ} (hlength : word.length = word'.length)
    (hzero : ∀ b ∈ word.drop size, b = 0) (hzero' : ∀ b ∈ word'.drop size, b = 0)
    (h : word.take size = word'.take size) : word = word' := by
  have hdrop : word.drop size = word'.drop size := by
    rw [List.eq_replicate_of_mem hzero, List.eq_replicate_of_mem hzero', List.length_drop,
      List.length_drop, hlength]
  rw [← List.take_append_drop size word, h, hdrop, List.take_append_drop]

theorem eq_of_toJson_bytes {raw raw' : List UInt8}
    (h : (Value.bytes raw).toJson = (Value.bytes raw').toJson) : raw = raw' :=
  Hex.encodePrefixed_inj (Json.str.inj h)

/-! ## Sequences -/

theorem length_listToJson_ofData (ds : List Datum) :
    (Value.listToJson (Value.ofData ds)).length = ds.length := by
  induction ds with
  | nil => rfl
  | cons d ds ih => rw [Value.ofData, Value.listToJson, List.length_cons, ih, List.length_cons]

/-- Members that are told from others at their places are told together. -/
theorem eq_of_listToJson {types : List AbiType} {items others : List Datum}
    (hitems : List.Forall₂ AbiType.Tells types items)
    (hothers : List.Forall₂ AbiType.Admits types others)
    (h : Value.listToJson (Value.ofData items) = Value.listToJson (Value.ofData others)) :
    items = others := by
  induction hitems generalizing others with
  | nil =>
    cases hothers
    rfl
  | cons hitem _ ih =>
    cases hothers with
    | cons hother hothers =>
      obtain ⟨hhead, htail⟩ := List.cons.inj h
      rw [hitem _ hother hhead, ih hothers htail]

/-- So are the items of arrays. -/
theorem eq_of_listToJson_items {t : AbiType} {items others : List Datum}
    (hitems : ∀ d ∈ items, t.Tells d) (hothers : ∀ d ∈ others, t.Admits d)
    (h : Value.listToJson (Value.ofData items) = Value.listToJson (Value.ofData others)) :
    items = others := by
  have hlength : items.length = others.length := by
    rw [← length_listToJson_ofData, h, length_listToJson_ofData]
  have htypes := forall₂_replicate hothers
  rw [← hlength] at htypes
  exact eq_of_listToJson (forall₂_replicate hitems) htypes h

/-! ## All data -/

/-- Whatever the type and its nesting, a datum is told by its JSON: of a single value its text gives
    it back, and the members of a sequence are told by induction. -/
theorem AbiType.Admits.tells {t : AbiType} {d : Datum} (h : t.Admits d) : t.Tells d := by
  intro w hw hjson
  induction h generalizing w with
  | bool b =>
    cases hw with
    | bool b' => rw [Json.bool.inj hjson]
  | uint _ =>
    cases hw with
    | uint _ => rw [Value.eq_of_toJson_ofNat hjson]
  | int _ _ =>
    cases hw with
    | int _ _ => rw [Value.eq_of_toJson_ofInt hjson]
  | address _ =>
    cases hw with
    | address _ => rw [Hex.encodePrefixed_inj (Json.str.inj hjson)]
  | fixedBytes hlength hzero =>
    cases hw with
    | fixedBytes hlength' hzero' =>
      rw [eq_of_take_eq (hlength.trans hlength'.symm) hzero hzero' (eq_of_toJson_bytes hjson)]
  | function _ =>
    cases hw with
    | function _ => rw [eq_of_toJson_bytes hjson]
  | bytes raw =>
    cases hw with
    | bytes raw' => rw [eq_of_toJson_bytes hjson]
  | string s =>
    cases hw with
    | string s' => rw [show s = s' from Json.str.inj hjson]
  | array _ ih =>
    cases hw with
    | array hitems => rw [eq_of_listToJson_items ih hitems (Json.arr.inj hjson)]
  | fixedArray _ _ ih =>
    cases hw with
    | fixedArray _ hitems => rw [eq_of_listToJson_items ih hitems (Json.arr.inj hjson)]
  | tuple hlength _ ih =>
    cases hw with
    | tuple hlength' hitems =>
      have htells := forall₂_of_zip (R := AbiType.Tells) hlength ih
      rw [eq_of_listToJson htells (forall₂_of_zip hlength' hitems) (Json.arr.inj hjson)]

end Abi

/-! ## Nothing is lost -/

/-- Two data are rendered alike: as the same JSON value, on one line or on indented lines. -/
def Abi.RenderedAlike (v w : Datum) : Prop :=
  let json := (Value.ofDatum v).toJson
  let json' := (Value.ofDatum w).toJson
  json = json' ∨ json.compact = json'.compact ∨ json.pretty = json'.pretty

/-- Data of one type that are rendered alike are the same, and an integer of any size is rendered as
    the string of its exact decimal text. -/
theorem Value.toJson_lossless :
    (∀ (t : AbiType) (v w : Datum), t.Admits v → t.Admits w → RenderedAlike v w → v = w) ∧
      (∀ n bits : ℕ, ∃ s, (ofDatum (.uint n bits)).toJson = .str s ∧ Natural.IsDecimal n s) ∧
      (∀ (n : ℤ) (bits : ℕ),
        ∃ s, (ofDatum (.int n bits)).toJson = .str s ∧ Natural.IsDecimal n s) := by
  refine ⟨fun t v w hv hw halike => ?_,
    fun n _ => ⟨_, toJson_ofNat n, Natural.isDecimal_toString_nat n⟩,
    fun n _ => ⟨_, toJson_ofInt n, Natural.isDecimal_toString n⟩⟩
  apply hv.tells w hw
  rcases halike with hjson | htext
  · exact hjson
  · exact (plain_toJson _).eq_of_text (plain_toJson _) htext

/-- A number just beyond 128 bits and a padded byte, each given in two ways. -/
theorem Value.toJson_lossless_beyondLimit :
    RenderedAlike (.tuple [.uint (2 ^ 128) 256, .fixedBytes (padRight [7]) 1])
        (.tuple [.uint 340282366920938463463374607431768211456 256,
          .fixedBytes (7 :: List.replicate 31 0) 1]) ∧
      Datum.tuple [.uint (2 ^ 128) 256, .fixedBytes (padRight [7]) 1] =
        .tuple [.uint 340282366920938463463374607431768211456 256,
          .fixedBytes (7 :: List.replicate 31 0) 1] := by
  have hadmits {n : ℕ} {word : List UInt8} (hn : n < 2 ^ 256)
      (hword : word = 7 :: List.replicate 31 0) :
      (AbiType.tuple [.uint 256, .fixedBytes 1]).Admits
        (.tuple [.uint n 256, .fixedBytes word 1]) := by
    refine .tuple rfl fun t d hmem => ?_
    simp only [List.zip_cons_cons, List.zip_nil_right, List.mem_cons, Prod.mk.injEq,
      List.not_mem_nil, or_false] at hmem
    rcases hmem with ⟨rfl, rfl⟩ | ⟨rfl, rfl⟩
    · exact .uint hn
    · rw [hword]
      exact .fixedBytes rfl fun b hb => List.eq_of_mem_replicate hb
  have halike : RenderedAlike (.tuple [.uint (2 ^ 128) 256, .fixedBytes (padRight [7]) 1])
      (.tuple [.uint 340282366920938463463374607431768211456 256,
        .fixedBytes (7 :: List.replicate 31 0) 1]) := .inl rfl
  exact ⟨halike, toJson_lossless.1 _ _ _ (hadmits (by norm_num) rfl)
    (hadmits (by norm_num) rfl) halike⟩

end ContractLens
