import ContractLens.Proofs.EventAddresses
import ContractLens.Proofs.FirstOccurrences
import ContractLens.Proofs.Text.LetterCase

/-!
# Addresses in order, and lists of addresses

The addresses of an event are all that its arguments mention, one input after the other, without the
repetitions. A list of addresses may be given as an array or packed, as text or as bytes; cut into
blocks of forty digits, packed addresses are the ones that were packed. As nothing but what is
mentioned counts, it does not matter which way a list is given.

* `mentions`: what the arguments mention, in order.
* `firstOccurrences_ofArgs`: the addresses of an event are the first occurrences there.
* `blocks_flatten`: blocks of forty bytes are found again.
* `Lists`: the ways to give a list of addresses.
* `ofArg_of_lists`: whichever way is used, the addresses of the list are mentioned.
* `ofArgs_order_and_lists`: the order of the addresses, and that the ways agree.
-/

namespace ContractLens.EventAddresses

open Abi

/-! ## Order -/

/-- The addresses that arguments mention for the inputs at their places, with repetitions. -/
def mentions (f : Fragment) (args : List Value) : List String :=
  (f.inputs.zip args).flatMap fun (input, arg) => ofArg input.type arg

/-- Texts that are appended are kept where they occur first. -/
theorem firstOccurrences_addNew {all found : List String} (h : FirstOccurrences all found)
    (texts : List String) : FirstOccurrences (all ++ texts) (addNew found texts) := by
  induction texts generalizing all found with
  | nil => simpa [addNew] using h
  | cons s texts ih =>
    rw [addNew, List.foldl_cons, ← addNew, List.append_cons]
    by_cases hs : s ∈ found
    · rw [if_pos (List.contains_iff_mem.mpr hs)]
      exact ih (h.append_of_mem hs)
    · rw [if_neg (mt List.contains_iff_mem.mp hs)]
      exact ih (h.append_of_not_mem hs)

theorem firstOccurrences_foldl {all found : List String} (h : FirstOccurrences all found)
    (pairs : List (Param × Value)) :
    FirstOccurrences (all ++ pairs.flatMap fun (input, arg) => ofArg input.type arg)
      (pairs.foldl (fun found (input, arg) => addNew found (ofArg input.type arg)) found) := by
  induction pairs generalizing all found with
  | nil => simpa using h
  | cons pair pairs ih =>
    rw [List.flatMap_cons, ← List.append_assoc, List.foldl_cons]
    exact ih (firstOccurrences_addNew h _)

/-- The addresses of an event are those that its arguments mention, where they occur first. -/
theorem firstOccurrences_ofArgs (f : Fragment) (args : List Value) :
    FirstOccurrences (mentions f args) (ofArgs f args) :=
  firstOccurrences_foldl .nil (f.inputs.zip args)

/-- Nothing but what is mentioned counts. -/
theorem ofArgs_congr {f : Fragment} {args args' : List Value}
    (h : mentions f args = mentions f args') : ofArgs f args = ofArgs f args' := by
  have hfirst := firstOccurrences_ofArgs f args
  have hfirst' := firstOccurrences_ofArgs f args'
  rw [← h] at hfirst'
  apply eq_of_idxOf_lt hfirst.order hfirst'.order
  intro a
  rw [hfirst.mem_iff, hfirst'.mem_iff]

/-- What is mentioned around one of the arguments. -/
theorem mentions_append_cons {f : Fragment} {ps qs : List Param} {p : Param}
    {before : List Value} (hinputs : f.inputs = ps ++ p :: qs)
    (hlength : ps.length = before.length) (v : Value) (after : List Value) :
    mentions f (before ++ v :: after) =
      (ps.zip before).flatMap (fun (input, arg) => ofArg input.type arg) ++ ofArg p.type v ++
        (qs.zip after).flatMap fun (input, arg) => ofArg input.type arg := by
  rw [mentions, hinputs, List.zip_append hlength, List.zip_cons_cons, List.flatMap_append,
    List.flatMap_cons, List.append_assoc]

/-! ## Packed addresses -/

theorem blocks_append {block : List UInt8} (h : block.length = 40) (rest : List UInt8) :
    blocks (block ++ rest) = block :: blocks rest := by
  have hnext (i : ℕ) : (block ++ rest).drop (40 * (i + 1)) = rest.drop (40 * i) := by
    rw [List.drop_append, List.drop_of_length_le (by omega), List.nil_append, h]
    rfl
  simp [blocks, List.range_succ_eq_map, Function.comp_def, hnext, h]

/-- Blocks of forty bytes are found again. -/
theorem blocks_flatten {parts : List (List UInt8)} (h : ∀ part ∈ parts, part.length = 40) :
    blocks parts.flatten = parts := by
  induction parts with
  | nil => rfl
  | cons part parts ih =>
    obtain ⟨hpart, hparts⟩ := List.forall_mem_cons.mp h
    rw [List.flatten_cons, blocks_append hpart, ih hparts]

/-- Packed addresses are the ones that were packed. -/
theorem splitPacked_encode_flatten {raws : List (List UInt8)}
    (h : ∀ raw ∈ raws, raw.length = 20) :
    splitPacked (Hex.encode raws.flatten) = raws.map Hex.encodePrefixed := by
  have hbytes : utf8Bytes (Hex.encode raws.flatten) =
      (raws.map fun raw => utf8Bytes (Hex.encode raw)).flatten := by
    simp only [Hex.utf8Bytes_encode, List.flatMap_def, List.map_flatten, List.flatten_flatten,
      List.map_map, Function.comp_def]
  have hforty : ∀ part ∈ raws.map fun raw => utf8Bytes (Hex.encode raw), part.length = 40 := by
    intro part hpart
    obtain ⟨raw, hraw, rfl⟩ := List.mem_map.mp hpart
    rw [Hex.length_utf8Bytes_encode, h raw hraw]
  rw [splitPacked, hbytes, blocks_flatten hforty, List.filterMap_map]
  simp only [Function.comp_def, fromUTF8?_utf8Bytes, Option.map_some]
  exact congrFun List.filterMap_eq_map' raws

/-! ## Lists of addresses -/

/-- A value lists these addresses: as an array, packed in hex with or without `0x`, or packed as
    bytes. -/
inductive Lists (raws : List (List UInt8)) : Value → Prop
  | array : Lists raws (.array (raws.map Value.ofAddressBytes))
  | digits : Lists raws (.str (Hex.encode raws.flatten))
  | marked : Lists raws (.str (Hex.encodePrefixed raws.flatten))
  | bytes : Lists raws (.bytes raws.flatten)

theorem stripMarker_encode (raw : List UInt8) : Hex.stripMarker (Hex.encode raw) = Hex.encode raw :=
  LetterCase.stripMarker_of_asciiLower_hex (LetterCase.asciiLower_encode raw)

/-- Whichever way a list is given, its addresses are mentioned in order. -/
theorem ofArg_of_lists {raws : List (List UInt8)} (h : ∀ raw ∈ raws, raw.length = 20) {v : Value}
    (hv : Lists raws v) : ofArg "address[]" v = raws.map Hex.encodePrefixed := by
  cases hv with
  | array =>
    show (raws.map Value.ofAddressBytes).filterMap ofValue? = _
    rw [List.filterMap_map]
    exact congrFun (List.filterMap_eq_map' (f := Hex.encodePrefixed)) raws
  | digits =>
    show splitPacked (Hex.stripMarker (Hex.encode raws.flatten)) = _
    rw [stripMarker_encode, splitPacked_encode_flatten h]
  | marked =>
    show splitPacked (Hex.stripMarker ("0x" ++ Hex.encode raws.flatten)) = _
    rw [Hex.stripMarker_append, splitPacked_encode_flatten h]
  | bytes => exact splitPacked_encode_flatten h

/-- No address of an event is reported twice, and the addresses stand in the order in which the
    arguments mention them first. For an input that is a list of addresses all of the list are
    reported, and with the same result for all ways to give it, whatever the other inputs and
    arguments are. -/
theorem ofArgs_order_and_lists (f : Fragment) :
    (∀ args, (ofArgs f args).Nodup ∧ FirstOccurrences (mentions f args) (ofArgs f args)) ∧
    ∀ (raws : List (List UInt8)) (before after : List Value) (p : Param),
      (∀ raw ∈ raws, raw.length = 20) → f.inputs[before.length]? = some p →
      p.type = "address[]" → ∀ v v', Lists raws v → Lists raws v' →
        ofArgs f (before ++ v :: after) = ofArgs f (before ++ v' :: after) ∧
        ∀ raw ∈ raws, Hex.encodePrefixed raw ∈ ofArgs f (before ++ v :: after) := by
  constructor
  · intro args
    have hfirst := firstOccurrences_ofArgs f args
    exact ⟨nodup_of_idxOf_lt hfirst.order, hfirst⟩
  · intro raws before after p hraws hp htype v v' hv hv'
    obtain ⟨hlt, hget⟩ := List.getElem?_eq_some_iff.mp hp
    have hinputs : f.inputs = f.inputs.take before.length ++
        p :: f.inputs.drop (before.length + 1) := by
      rw [← hget, ← List.drop_eq_getElem_cons hlt, List.take_append_drop]
    have hlength : (f.inputs.take before.length).length = before.length :=
      List.length_take_of_le hlt.le
    have hmentions (v : Value) := mentions_append_cons hinputs hlength v after
    rw [htype] at hmentions
    constructor
    · apply ofArgs_congr
      rw [hmentions, hmentions, ofArg_of_lists hraws hv, ofArg_of_lists hraws hv']
    · intro raw hraw
      rw [(firstOccurrences_ofArgs f _).mem_iff, hmentions, ofArg_of_lists hraws hv]
      apply List.mem_append_left
      apply List.mem_append_right
      exact List.mem_map_of_mem hraw

/-- An event with an owner and a list of members. -/
def membersEvent : Fragment :=
  .ofEvent "Members" [.ofEvent "owner" "address" false, .ofEvent "members" "address[]" false]

/-- Three members, of which the last is the first once more. -/
def memberBytes : List (List UInt8) :=
  [List.replicate 20 0x11, List.replicate 20 0x22, List.replicate 20 0x11]

/-- Packed members are reported like an array of them, behind the owner, who is one of them. -/
theorem ofArgs_packed_members :
    (∀ raw ∈ memberBytes, raw.length = 20) ∧
    ∀ packed ∈ [Value.str (Hex.encode memberBytes.flatten),
        .str (Hex.encodePrefixed memberBytes.flatten), .bytes memberBytes.flatten],
      ofArgs membersEvent [.address "0x2222222222222222222222222222222222222222", packed] =
        ["0x2222222222222222222222222222222222222222",
          "0x1111111111111111111111111111111111111111"] := by
  have hraws : ∀ raw ∈ memberBytes, raw.length = 20 := by decide
  refine ⟨hraws, ?_⟩
  intro packed hpacked
  have hlists : Lists memberBytes packed := by
    simp only [List.mem_cons, List.not_mem_nil, or_false] at hpacked
    rcases hpacked with rfl | rfl | rfl
    · exact .digits
    · exact .marked
    · exact .bytes
  have hsame := ((ofArgs_order_and_lists membersEvent).2 memberBytes
    [.address "0x2222222222222222222222222222222222222222"] [] _ hraws rfl rfl _ _ hlists
    .array).1
  rw [List.singleton_append, List.singleton_append] at hsame
  rw [hsame]
  decide +kernel

end ContractLens.EventAddresses
