import ContractLens.Json.Printer
import ContractLens.Json.Reader
import ContractLens.Log

/-!
# Files of logs

The JSON texts from which logs are read: an array of logs, a receipt, which has the logs in a field,
or a single log. Decoded logs are written as an array, which reads again as the same raw logs.
-/

namespace ContractLens.LogFile

/-- Why a text holds no logs. -/
inductive Fault where
  | notJson
  /-- The value is neither an array nor a receipt nor a log. -/
  | noLogs
  /-- There is an entry that is no log. -/
  | badLog
deriving DecidableEq, Repr

/-- The message of a fault. -/
def Fault.message : Fault → String
  | notJson => "input is not JSON"
  | noLogs => "expected an array of logs or a receipt"
  | badLog => "malformed log entry"

/-- The part of a value in which the logs are listed (in `parse_logs`). An object with both `logs`
    and `topics` is a receipt. -/
def listing? (value : Json) : Option Json :=
  match value with
  | .arr _ => some value
  | .obj _ =>
    match value.field? "logs", value.field? "topics" with
    | some logs, _ => some logs
    | none, some _ => some (.arr [value])
    | none, none => none
  | _ => none

/-- The logs that a JSON text holds (`parse_logs`). -/
def ofText (text : String) : Except Fault (List RawLog) :=
  match Json.parseReadable? text with
  | none => .error .notJson
  | some value =>
    match listing? value.canonical with
    | none => .error .noLogs
    | some listing =>
      match Json.list? RawLog.ofJson? listing with
      | some logs => .ok logs
      | none => .error .badLog

/-- Decoded logs as JSON. -/
def toJson (logs : List DecodedLog) : Json := .arr (logs.map DecodedLog.toJson)

/-- Decoded logs as JSON text, on one line or indented (in `cmd_decode.run`). -/
def text (pretty : Bool) (logs : List DecodedLog) : String :=
  if pretty then (toJson logs).pretty else (toJson logs).compact

end ContractLens.LogFile
