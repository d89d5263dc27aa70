import ContractLens.Abi.Signature

/-!
# Signature tables

Signatures worked out once and kept by fragment. Equal fragments share one entry, so whether a
fragment is in the table never changes the signature that `signature` gives for it.

`dedupeEvents` reduces an interface description to one event for each layout.
-/

namespace ContractLens.Abi

/-- Signatures kept by fragment. -/
structure SignatureTable where
  entries : List (Fragment × Signature)

namespace SignatureTable

/-- The table without entries (`SignatureTable.new`). -/
def empty : SignatureTable := ⟨[]⟩

/-- The entry of a fragment (`SignatureTable.get`). -/
def get? (t : SignatureTable) (f : Fragment) : Option Signature := t.entries.lookup f

/-- A fragment's signature worked out and put into the table in place of any older entry (in
    `SignatureTable.annotate`). -/
def insert (t : SignatureTable) (f : Fragment) : SignatureTable :=
  ⟨(f, Signature.ofFragment f) :: t.entries.filter (·.1 ≠ f)⟩

/-- Entries for all fragments (`SignatureTable.annotate`). With `skipExisting`, a fragment that has
    an entry keeps it. -/
def annotate (t : SignatureTable) (fragments : List Fragment) (skipExisting : Bool) :
    SignatureTable :=
  fragments.foldl (fun t f => if skipExisting && (t.get? f).isSome then t else t.insert f) t

/-- A table with entries for these fragments (`SignatureTable.from_abi`). -/
def ofFragments (fragments : List Fragment) : SignatureTable := empty.annotate fragments false

/-- The signature of a fragment, from the table if it is there (`SignatureTable.get_or_compute`). -/
def signature (t : SignatureTable) (f : Fragment) : Signature :=
  (t.get? f).getD (Signature.ofFragment f)

/-- How many entries there are (`SignatureTable.len`). -/
def size (t : SignatureTable) : Nat := t.entries.length

/-- Whether there are no entries (`SignatureTable.is_empty`). -/
def isEmpty (t : SignatureTable) : Bool := t.entries.isEmpty

end SignatureTable

/-- The first event of each layout, in order; `seen` lists the layouts that came before (in
    `dedupe_events`). -/
def firstOfEachLayout (t : SignatureTable) (seen : List (Option String)) :
    List Fragment → List Fragment
  | [] => []
  | event :: rest =>
    let layout := (t.signature event).layoutHash
    if seen.contains layout then firstOfEachLayout t seen rest
    else event :: firstOfEachLayout t (layout :: seen) rest

/-- All fragments that are no events, then the first event of each layout (`dedupe_events`). -/
def dedupeEvents (fragments : List Fragment) (t : SignatureTable) : List Fragment :=
  fragments.filter (!·.isEvent) ++ firstOfEachLayout t [] (fragments.filter (·.isEvent))

/-- An association list with a value for a key that has none yet (in `selectors_from_abi`). -/
def insertNew (pairs : List (String × String)) (key value : String) : List (String × String) :=
  if pairs.any (·.1 == key) then pairs else pairs ++ [(key, value)]

/-- The selector of each named function by its canonical signature, in the order of the functions
    (`selectors_from_abi`). Of equal signatures the first stays. -/
def functionSelectors (fragments : List Fragment) (t : SignatureTable) : List (String × String) :=
  (fragments.filter (·.isFunction)).foldl (fun pairs f =>
    let s := t.signature f
    match s.method, s.selector? with
    | some method, some selector => insertNew pairs method selector
    | _, _ => pairs) []

end ContractLens.Abi
