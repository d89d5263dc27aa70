import ContractLens.Abi.Fragment
import ContractLens.Hash.Keccak

/-!
# Signatures

A named fragment has a canonical signature, its name with the types of its inputs:
`transfer(address,uint256)`. The Keccak hash of that text identifies an event, its first four bytes
a function. Tuples are spelled out, so `tuple[3]` of `uint256` and `address` is
`(uint256,address)[3]`.

Events have a layout hash as well, of the canonical signature followed by one byte in hex for each
input, which is `01` if the input is indexed and `00` if not.
-/

namespace ContractLens.Abi

/-! ## Canonical text -/

/-- What stands behind the word `tuple` in a type, if the type is a tuple or an array of tuples (in
    `canonical_type`). -/
def tupleSuffix? (type : String) : Option String :=
  match type.toList with
  | ['t', 'u', 'p', 'l', 'e'] => some ""
  | 't' :: 'u' :: 'p' :: 'l' :: 'e' :: '[' :: rest => some (String.ofList ('[' :: rest))
  | _ => none

/-- Types in parentheses (in `canonical_type` and `canonical_signature`). -/
def typeList (types : List String) : String := "(" ++ String.intercalate "," types ++ ")"

mutual

/-- The canonical type of a parameter, with tuples spelled out (`canonical_type`). -/
def canonicalType : Param → String
  | .mk _ type components _ _ =>
    match tupleSuffix? type with
    | some suffix => typeList (canonicalTypes components) ++ suffix
    | none => type
termination_by structural p => p

/-- The canonical types of parameters (in `canonical_signature`). -/
def canonicalTypes : List Param → List String
  | [] => []
  | p :: ps => canonicalType p :: canonicalTypes ps
termination_by structural ps => ps

end

/-- The canonical signature of a fragment, if it has a name (`canonical_signature`). -/
def Fragment.canonicalSignature? (f : Fragment) : Option String :=
  f.name?.map fun name => name ++ typeList (canonicalTypes f.inputs)

/-! ## Selectors -/

/-- The first eight characters of a hash, which may have `0x` in front (`selector`). -/
def selectorOfHash (hash : String) : String := String.ofList ((Hex.stripMarker hash).toList.take 8)

/-- The selector of a canonical signature (`method_selector`). -/
def methodSelector (method : String) : String := selectorOfHash (Keccak.keccak256Hex method)

/-! ## Interface numbers -/

/-- Bytes added to four bytes; bytes behind the fourth have no effect (in `erc165_id`). -/
def addBytes (id bytes : List UInt8) : List UInt8 :=
  id.mapIdx fun i b => b ^^^ bytes.getD i 0

/-- The sum of selectors in hex (`erc165_id`). Text that is no hex counts as no bytes. -/
def interfaceId (selectors : List String) : String :=
  Hex.encodePrefixed
    (selectors.foldl (fun id s => addBytes id ((Hex.decodePairs? s).getD [])) [0, 0, 0, 0])

/-- The sum of the selectors of canonical signatures (`erc165_id_from_methods`). -/
def interfaceIdOfMethods (methods : List String) : String :=
  interfaceId (methods.map methodSelector)

/-! ## Signatures of fragments -/

/-- What a fragment's name and inputs determine (`SignatureData`). -/
structure Signature where
  /-- The canonical signature. -/
  method : Option String
  /-- Its hash in hex. -/
  hash : Option String
  /-- Which inputs of an event are indexed; empty for all else. -/
  indexed : List Bool
  /-- The hash of the signature and the indexed flags of a named event. -/
  layoutHash : Option String
deriving DecidableEq, Repr

namespace Signature

/-- The layout hash of a canonical signature with these flags (`event_signature_hash`). -/
def layoutHashOf (method : String) (indexed : List Bool) : String :=
  Keccak.keccak256Hex (method ++ Hex.encode (indexed.map fun i => if i then 1 else 0))

/-- The signature of a fragment (`SignatureData.compute`). -/
def ofFragment (f : Fragment) : Signature :=
  let method := f.canonicalSignature?
  let indexed := if f.isEvent then f.inputs.map Param.isIndexed else []
  { method
    hash := method.map Keccak.keccak256Hex
    indexed
    layoutHash := if f.isEvent then method.map (layoutHashOf · indexed) else none }

/-- How many inputs are indexed (`SignatureData.indexed`). -/
def indexedCount (s : Signature) : Nat := s.indexed.count true

/-- The first eight digits of the hash (`SignatureData.selector`). -/
def selector? (s : Signature) : Option String := s.hash.map selectorOfHash

/-- The signature as JSON (`SignatureData.serialize`). -/
def toJson (s : Signature) : Json :=
  .obj [("method", Json.ofOption .str s.method), ("signature", Json.ofOption .str s.hash),
    ("index", .arr (s.indexed.map .bool)), ("indexed", .ofNat s.indexedCount),
    ("eventSignature", Json.ofOption .str s.layoutHash)]

end Signature

end ContractLens.Abi
