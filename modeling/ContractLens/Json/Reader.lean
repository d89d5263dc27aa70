import ContractLens.Json.Basic
import ContractLens.Json.Token

/-!
# Reading JSON text

A stack machine builds one JSON value, which may have blanks around it, from the tokens. Repeated
keys stay in the value. Arrays and objects that are nested more than `maxDepth` levels deep are
unreadable, and so are objects with an unreadable key.

* `Json.parse?` keeps what is unreadable.
* `Json.parseReadable?` takes a text only if nothing in it is unreadable.
-/

namespace ContractLens.Json

/-- In how many levels arrays and objects may be nested. -/
def maxDepth : Nat := 127

/-- A field of an object that is still read. Its key may be unreadable. -/
abbrev ReadField := Option String × Json

/-- An array or object that is still open, with its items or fields in reverse order. -/
inductive Frame where
  | array (items : List Json)
  | object (fields : List ReadField) (key : Option String)

/-- What may come next. -/
inductive Expecting where
  /-- A value. -/
  | value
  /-- The first item of an array, or its end. -/
  | itemOrEnd
  /-- The first key of an object, or its end. -/
  | keyOrEnd
  /-- A key. -/
  | key
  /-- The colon behind a key. -/
  | colon
  /-- A comma, or the end of the innermost array or object. -/
  | more
  /-- Nothing: the value is complete. -/
  | nothing (value : Json)

/-- The open arrays and objects, innermost first, and what may come next. -/
structure Reading where
  stack : List Frame
  expecting : Expecting

/-- The object with these fields. -/
def ofReadFields (fields : List ReadField) : Json :=
  match fields.mapM fun (key, value) => key.map (·, value) with
  | some fields => obj fields
  | none => unreadable

/-- The value of an array or object that ends, where these are still open. -/
def closed (outer : List Frame) : Frame → Json
  | .array items => if (outer.drop (maxDepth - 1)).isEmpty then arr items.reverse else unreadable
  | .object fields _ =>
    if (outer.drop (maxDepth - 1)).isEmpty then ofReadFields fields.reverse else unreadable

/-- A value is complete. -/
def Reading.complete (stack : List Frame) (value : Json) : Reading :=
  match stack with
  | [] => ⟨[], .nothing value⟩
  | .array items :: outer => ⟨.array (value :: items) :: outer, .more⟩
  | .object fields key :: outer => ⟨.object ((key, value) :: fields) none :: outer, .more⟩

/-- The value that a token is by itself. -/
def Token.scalar? : Token → Option Json
  | .string (some s) => some (str s)
  | .string none => some unreadable
  | .number (.int n) => some (int n)
  | .number (.real bits) => some (real bits)
  | .number .beyond => some unreadable
  | .true => some (bool Bool.true)
  | .false => some (bool Bool.false)
  | .null => some Json.null
  | _ => none

/-- A token where a value may start. -/
def Reading.beginValue? (stack : List Frame) (t : Token) : Option Reading :=
  match t with
  | .openArray => some ⟨.array [] :: stack, .itemOrEnd⟩
  | .openObject => some ⟨.object [] none :: stack, .keyOrEnd⟩
  | t => t.scalar?.map (complete stack)

/-- The innermost array or object ends. -/
def Reading.endFrame? : List Frame → Option Reading
  | frame :: outer => some (complete outer (closed outer frame))
  | [] => none

/-- A key in the innermost object. -/
def Reading.putKey? (stack : List Frame) (key : Option String) : Option Reading :=
  match stack with
  | .object fields _ :: outer => some ⟨.object fields key :: outer, .colon⟩
  | _ => none

/-- One token. -/
def Reading.step? (r : Reading) (t : Token) : Option Reading :=
  match r.expecting, t with
  | .value, t => beginValue? r.stack t
  | .itemOrEnd, .closeArray => endFrame? r.stack
  | .itemOrEnd, t => beginValue? r.stack t
  | .keyOrEnd, .closeObject => endFrame? r.stack
  | .keyOrEnd, .string key => putKey? r.stack key
  | .key, .string key => putKey? r.stack key
  | .colon, .colon => some ⟨r.stack, .value⟩
  | .more, t =>
    match r.stack, t with
    | .array _ :: _, .comma => some ⟨r.stack, .value⟩
    | .array _ :: _, .closeArray => endFrame? r.stack
    | .object .. :: _, .comma => some ⟨r.stack, .key⟩
    | .object .. :: _, .closeObject => endFrame? r.stack
    | _, _ => none
  | _, _ => none

/-- All tokens. -/
def Reading.run? : Reading → List Token → Option Reading
  | r, [] => some r
  | r, t :: rest => (r.step? t).bind (run? · rest)

/-- The value that a JSON text stands for, in which parts may be unreadable. -/
def parse? (s : String) : Option Json :=
  (tokens? s).bind fun ts =>
    (Reading.run? ⟨[], .value⟩ ts).bind fun r =>
      match r.expecting with
      | .nothing value => some value
      | _ => none

/-- The value that a JSON text stands for, if all of it is readable. -/
def parseReadable? (s : String) : Option Json := (parse? s).filter isReadable

end ContractLens.Json
