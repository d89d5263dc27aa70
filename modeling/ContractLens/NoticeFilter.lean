import ContractLens.Json.Printer
import ContractLens.Json.Reader
import ContractLens.Notice

/-!
# Which notices are shown

A filter has a level for all notices and further levels for single components, in the order in which
they were given. Notices below the level are not shown; the others are written as text or as JSON,
one a line.
-/

namespace ContractLens

namespace Notice

/-- How much a level matters, from traces to errors. -/
def Level.rank : Level → Nat
  | .trace => 0
  | .debug => 1
  | .info => 2
  | .warn => 3
  | .error => 4

/-- The level of a lower-case name. -/
def Level.ofName? : String → Option Level
  | "trace" => some .trace
  | "debug" => some .debug
  | "info" => some .info
  | "warn" => some .warn
  | "error" => some .error
  | _ => none

/-- The details of a notice as JSON. -/
def detailsToJson (n : Notice) : Json := .obj (n.details.map fun (name, text) => (name, .str text))

/-- A notice as JSON. -/
def toJson (n : Notice) : Json :=
  .obj [("level", .str n.level.name), ("message", .str n.message), ("fields", n.detailsToJson)]

/-- A notice as text. -/
def text (n : Notice) : String :=
  n.details.foldl (fun line (name, text) => line ++ " " ++ name ++ "=" ++ text)
    (n.level.name ++ " " ++ n.message)

end Notice

/-- Which notices are shown, and how (`LogConfig`). -/
structure NoticeFilter where
  level : String
  /-- The levels of components by name. -/
  components : List (String × String)
  /-- Whether each notice is written as a line of JSON. -/
  json : Bool
deriving DecidableEq, Repr

namespace NoticeFilter

/-- The filter with a level for all notices (`LogConfig.with_level`). -/
def ofLevel (level : String) : NoticeFilter := ⟨level, [], false⟩

/-- The filter that shows warnings and errors (`LogConfig.default`). -/
def standard : NoticeFilter := ofLevel "warn"

/-- The name of a component in a directive, where an underscore stands for a hyphen (in
    `LogConfig.directives`). -/
def componentName (name : String) : String := name.map fun c => if c = '-' then '_' else c

/-- The filter as directives: the level and then a level for each component
    (`LogConfig.directives`). -/
def directives (f : NoticeFilter) : String :=
  f.components.foldl (fun text (name, level) => text ++ "," ++ componentName name ++ "=" ++ level)
    f.level

/-- Whether a notice is shown (`LogConfig.filter`). A name that is no level stands for that of
    warnings. -/
def shows (f : NoticeFilter) (n : Notice) : Bool :=
  ((Notice.Level.ofName? f.level).getD .warn).rank ≤ n.level.rank

/-- The lines in which notices are shown (in `try_init_tracing`). -/
def lines (f : NoticeFilter) (notices : List Notice) : List String :=
  (notices.filter f.shows).map fun n => if f.json then n.toJson.compact else n.text

/-! ## JSON -/

/-- A field put in place of the one with the same key, or at the end if there is none. -/
def putField (fields : List (String × String)) (key value : String) : List (String × String) :=
  if fields.any (·.1 == key) then
    fields.map fun (k, v) => if k = key then (k, value) else (k, v)
  else fields ++ [(key, value)]

/-- The levels of components that an object lists. -/
def componentsOfJson? : Json → Option (List (String × String))
  | .obj fields =>
    fields.foldlM (fun components (name, value) => value.text?.map (putField components name)) []
  | _ => none

/-- The filter that a JSON value describes; what is absent is as in the standard one
    (`LogConfig.deserialize`). -/
def ofJson? (value : Json) : Option NoticeFilter := do
  let r ← value.record? ["level", "components", "json"]
  let level ← r.withDefault "level" standard.level Json.text?
  let components ← r.withDefault "components" standard.components componentsOfJson?
  let json ← r.withDefault "json" standard.json Json.flag?
  return { level, components, json }

/-- The filter that a JSON text describes. -/
def ofText? (text : String) : Option NoticeFilter := (Json.parse? text).bind ofJson?

end NoticeFilter

end ContractLens
