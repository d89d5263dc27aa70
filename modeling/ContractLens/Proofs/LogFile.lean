import ContractLens.CommandLine.Program
import ContractLens.Proofs.DecodedLogs
import ContractLens.Proofs.Records
import ContractLens.Proofs.Value

/-!
# Decoded logs as files of logs

Decoded logs are written as plain JSON values, in which the fields of the raw log stand beside those
of the event without sharing a key. So the text that is written is a file of logs again, with the
same raw logs in it.

* `DecodedLog.plain_toJson`: a decoded log is plain, whatever its fragment and its arguments are.
* `DecodedLog.ofJson?_toJson`: the raw log is read from a decoded one.
* `LogFile.ofText_text`: a file is read from the text of decoded logs.
* `CommandLine.decodeLogs_again`: what comes of decoding the own output.
-/

namespace ContractLens

open Abi

/-! ## Plain values -/

mutual

/-- Parameters are plain with all their parts, as values are. -/
theorem Abi.Param.plain_toJson : ∀ p : Param, p.toJson.Plain
  | .mk name type components indexed internalType => by
    refine .obj ?_
    simp only [List.forall_mem_append, List.forall_mem_cons, and_assoc]
    exact ⟨.str name, .str type, List.forall_mem_nil _, plain_componentsField components,
      Json.plain_fieldOfOption .bool _ indexed, Json.plain_fieldOfOption .str _ internalType⟩
termination_by structural p => p

theorem Abi.Param.plain_componentsField :
    ∀ ps : List Param, ∀ field ∈ componentsField ps, field.2.Plain
  | [] => List.forall_mem_nil _
  | p :: ps => List.forall_mem_singleton.mpr
      (.arr (List.forall_mem_cons.mpr ⟨plain_toJson p, plain_listToItems ps⟩))
termination_by structural ps => ps

theorem Abi.Param.plain_listToItems : ∀ ps : List Param, ∀ j ∈ listToItems ps, j.Plain
  | [] => List.forall_mem_nil _
  | p :: ps => List.forall_mem_cons.mpr ⟨plain_toJson p, plain_listToItems ps⟩
termination_by structural ps => ps

end

theorem Abi.Fragment.plain_toJson (f : Fragment) : f.toJson.Plain := by
  have houtputs : ∀ field ∈ (if f.outputs = [] then []
      else [("outputs", Json.arr (Param.listToItems f.outputs))]), field.2.Plain := by
    split_ifs
    · exact List.forall_mem_nil _
    · exact List.forall_mem_singleton.mpr (.arr (Param.plain_listToItems f.outputs))
  refine .obj ?_
  simp only [List.forall_mem_append, and_assoc]
  exact ⟨List.forall_mem_singleton.mpr (.str _), Json.plain_fieldOfOption .str _ _,
    List.forall_mem_singleton.mpr (.arr (Param.plain_listToItems f.inputs)), houtputs,
    Json.plain_fieldOfOption .bool _ _, Json.plain_fieldOfOption .str _ _,
    Json.plain_fieldOfOption .bool _ _, Json.plain_fieldOfOption .bool _ _⟩

theorem RawLog.plain_toFields (log : RawLog) : ∀ field ∈ log.toFields, field.2.Plain := by
  have hnumber : (Json.ofOption Json.ofWord log.blockNumber).Plain := by
    cases log.blockNumber with
    | none => exact .null
    | some n => exact .word n
  simp only [toFields, List.forall_mem_append, List.forall_mem_cons, and_assoc]
  exact ⟨.str _, Json.plain_ofTexts _, .str _, hnumber, List.forall_mem_nil _,
    Json.plain_fieldOfOption .str _ _, Json.plain_fieldOfOption .str _ _,
    Json.plain_fieldOfOption .word _ _, Json.plain_fieldOfOption .word _ _⟩

namespace DecodedLog

/-- The fields that stand behind those of the raw log. -/
def furtherFields (d : DecodedLog) : List (String × Json) :=
  (d.event.map DecodedEvent.toFields).getD [] ++
    Json.fieldOfOption "_addresses" Json.ofTexts d.addresses

theorem toJson_eq (d : DecodedLog) : d.toJson = .obj (d.log.toFields ++ d.furtherFields) := by
  rw [toJson, furtherFields, List.append_assoc]
  cases d.event <;> rfl

/-- A decoded log is a plain value, whatever its fragment and its arguments are. -/
theorem plain_toJson (d : DecodedLog) : d.toJson.Plain := by
  have hevent : ∀ field ∈ (d.event.map DecodedEvent.toFields).getD [], field.2.Plain := by
    cases d.event with
    | none => exact List.forall_mem_nil _
    | some e =>
      simp only [Option.map_some, Option.getD_some, DecodedEvent.toFields, List.forall_mem_cons]
      exact ⟨.str _, .str _, e.fragment.plain_toJson, .arr (Value.plain_listToJson e.args),
        List.forall_mem_nil _⟩
  rw [toJson_eq, furtherFields]
  refine .obj ?_
  simp only [List.forall_mem_append]
  exact ⟨d.log.plain_toFields, hevent, Json.plain_fieldOfOption Json.plain_ofTexts _ _⟩

/-! ## Keys -/

theorem keys_furtherFields (d : DecodedLog) :
    (Json.keys d.furtherFields).Sublist (DecodedEvent.keys ++ ["_addresses"]) := by
  rw [furtherFields, Json.keys_append]
  refine List.Sublist.append ?_ (Json.keys_fieldOfOption _ _ _)
  cases d.event with
  | none => exact List.nil_sublist _
  | some e => exact List.Sublist.refl _

/-- No key of a decoded log is repeated. -/
theorem nodup_keys (d : DecodedLog) :
    (Json.keys (d.log.toFields ++ d.furtherFields)).Nodup := by
  have hall : (RawLog.fieldNames ++ (DecodedEvent.keys ++ ["_addresses"])).Nodup := by decide
  rw [Json.keys_append]
  exact hall.sublist (d.log.keys_toFields.append d.keys_furtherFields)

/-- What stands behind the fields of the raw log has other keys. -/
theorem lookup_fields (d : DecodedLog) {name : String} (h : name ∈ RawLog.fieldNames) :
    (d.log.toFields ++ d.furtherFields).lookup name = d.log.toFields.lookup name := by
  have hother : ∀ name ∈ RawLog.fieldNames, name ∉ DecodedEvent.keys ++ ["_addresses"] := by decide
  rw [List.lookup_append,
    Json.lookup_eq_none fun hkey => hother name h (d.keys_furtherFields.subset hkey),
    Option.or_none]

end DecodedLog

/-! ## Reading raw logs -/

/-- A decoded log is read as the raw log that it was decoded from. -/
theorem DecodedLog.ofJson?_toJson (d : DecodedLog) :
    RawLog.ofJson? d.toJson.canonical = some d.log := by
  obtain ⟨r, hr, hget⟩ :=
    Json.record?_inForm .canonical d.toJson d.toJson_eq d.nodup_keys RawLog.fieldNames
  refine RawLog.ofJson?_of_record .canonical hr fun name hname => ?_
  rw [hget name hname, toJson_eq, Json.field?, d.lookup_fields hname]

/-! ## Files -/

namespace LogFile

/-- The text of decoded logs is a file with their raw logs, also with blanks behind it. -/
theorem ofText_text {ds : List DecodedLog} (hdepth : (toJson ds).depth ≤ Json.maxDepth)
    (pretty : Bool) {blanks : String} (hblanks : ∀ c ∈ blanks.toList, Json.isBlank c = true) :
    ofText (text pretty ds ++ blanks) = .ok (ds.map DecodedLog.log) := by
  -- the text is read as the value that was written
  have hplain : (toJson ds).Plain := .arr fun j hj => by
    obtain ⟨d, -, rfl⟩ := List.mem_map.mp hj
    exact d.plain_toJson
  have hparse : Json.parseReadable? (text pretty ds ++ blanks) = some (toJson ds) := by
    obtain ⟨hcompact, hpretty⟩ := hplain.parseReadable?_text hdepth hblanks
    rw [text]
    cases pretty
    · exact hcompact
    · exact hpretty
  -- which is an array, in canonical form as well, and each item of it a log
  have hlogs : Json.list? RawLog.ofJson? (toJson ds).canonical = some (ds.map DecodedLog.log) := by
    rw [toJson, Json.canonical, Json.canonicalItems_eq, List.map_map]
    exact Json.list?_map DecodedLog.ofJson?_toJson ds
  have hlisting : listing? (toJson ds).canonical = some (toJson ds).canonical := rfl
  rw [ofText, hparse]
  simp only [hlisting, hlogs]

end LogFile

/-- With a network, a list is parsed log by log. -/
theorem Inspector.parseLogs_eq_map {c : Config} {i : Inspector} {fragments : List Fragment}
    (h : i.MadeFrom c fragments) {bridge : Bridge.Decoder}
    (hbridge : i.bridge = some bridge) (logs : List RawLog) :
    (i.parseLogs logs).value = .ok (logs.map fun log =>
      (decodeAlone c.natives bridge fragments log).withAddresses) := by
  rw [parseLogs, decodeLogs, hbridge, Noted.value_bind,
    decodeEach_eq_map h hbridge, Noted.value_pure, Except.map, List.map_map]
  rfl

namespace CommandLine

variable {c : Config} {i : Inspector} {fragments : List Fragment}

theorem lines_singleton (text : String) : lines [text] = text ++ "\n" := by
  rw [lines, List.map_singleton]
  simp [String.join]

/-- What is printed for a file of logs. -/
theorem decodeLogs_of_parsed {text : String} {logs : List RawLog} {ds : List DecodedLog}
    (htext : LogFile.ofText text = .ok logs) (hparsed : (i.parseLogs logs).value = .ok ds)
    (pretty : Bool) : (decodeLogs i text pretty).run.value = .ok (LogFile.text pretty ds) := by
  have hread : (Run.ofExcept Failure.badLogs (LogFile.ofText text)).run = pure (.ok logs) := by
    rw [Run.ofExcept, htext]
    rfl
  have hlift : (Except.ok <$> i.parseLogs logs).value =
      (.ok (.ok ds) : Except Failure (Except ConfigError (List DecodedLog))) :=
    congrArg Except.ok hparsed
  rw [decodeLogs, ExceptT.run_bind, Noted.value_bind, hread]
  simp only [Noted.value_pure, ExceptT.run_bind, Noted.value_bind, ExceptT.run_lift, hlift]
  rfl

/-- A log without topics, which no event fits. -/
def silentLog : RawLog := { Inspector.ownerLog with topics := [] }

/-- What the log of an owner is decoded to. -/
def ownerEvent : DecodedEvent :=
  ⟨"Owner", Keccak.keccak256Hex (signatureText "Owner" (oneTopic "Owner" "address").inputs),
    oneTopic "Owner" "address", [.address "0x2222222222222222222222222222222222222222"]⟩

theorem parseLogs_owner_silent
    (h : i.MadeFrom Inspector.ownerConfig [oneTopic "Owner" "address"]) :
    (i.parseLogs [Inspector.ownerLog, silentLog]).value =
      .ok [(DecodedLog.decoded Inspector.ownerLog ownerEvent).withAddresses,
        (DecodedLog.undecoded silentLog).withAddresses] := by
  have hplain : ¬ Inspector.ownerConfig.natives.Names Inspector.ownerLog.address := by
    decide +kernel
  have hname : (oneTopic "Owner" "address").name? = some "Owner" := by decide
  have hcount : (oneTopic "Owner" "address").indexedCount = [ownerTopic].length := rfl
  have hfind := EventDecoder.findEvent_eventLog rfl (by decide) hname hcount "0x"
  rcases h.bridge_cases with ⟨hnone, -⟩ | ⟨_, _, bridge, -, -, -, hsome⟩
  · cases hnone
  have howner : decodeAlone Inspector.ownerConfig.natives bridge [oneTopic "Owner" "address"]
      Inspector.ownerLog = .decoded Inspector.ownerLog ownerEvent := by
    rw [decodeAlone, if_neg hplain, EventDecoder.decodeLog, Noted.value_bind, Inspector.ownerLog,
      hfind]
    simp only [eventLog, List.tail_cons, EventDecoder.eventArgs_owner]
    rfl
  have hsilent : decodeAlone Inspector.ownerConfig.natives bridge [oneTopic "Owner" "address"]
      silentLog = .undecoded silentLog := by
    have hplain' : ¬ Inspector.ownerConfig.natives.Names silentLog.address := hplain
    rw [decodeAlone, if_neg hplain']
    rfl
  rw [Inspector.parseLogs_eq_map h hsome, List.map_cons, List.map_singleton, howner, hsilent]

/-- The output of decoding logs can be decoded again. With a network, any logs are decoded, and what
    is printed for them, on one line or indented, is a file with the same raw logs unless it is
    nested too deeply to be read; so decoding it prints it again. -/
theorem decodeLogs_again (h : i.MadeFrom c fragments) {id : UInt64} (hid : c.networkId = some id)
    (logs : List RawLog) :
    ∃ ds, (i.parseLogs logs).value = .ok ds ∧
      (∀ text, LogFile.ofText text = .ok logs → ∀ pretty,
        (decodeLogs i text pretty).run.value = .ok (LogFile.text pretty ds)) ∧
      ((LogFile.toJson ds).depth ≤ Json.maxDepth → ∀ pretty,
        LogFile.ofText (lines [LogFile.text pretty ds]) = .ok logs ∧
        ∀ again, (decodeLogs i (lines [LogFile.text pretty ds]) again).run.value =
          .ok (LogFile.text again ds)) := by
  rcases h.bridge_cases with ⟨hnone, -⟩ | ⟨_, network, bridge, -, -, hbridge, hsome⟩
  · rw [hid] at hnone
    cases hnone
  have hparsed := Inspector.parseLogs_eq_map h hsome logs
  refine ⟨_, hparsed, fun text htext pretty => decodeLogs_of_parsed htext hparsed pretty,
    fun hdepth pretty => ?_⟩
  have hlogs : (logs.map fun log =>
      (decodeAlone c.natives bridge fragments log).withAddresses).map DecodedLog.log = logs := by
    have hlog (log : RawLog) :
        (decodeAlone c.natives bridge fragments log).withAddresses.log = log :=
      (DecodedLog.withAddresses_log _).trans
        (decodeAlone_describes hbridge c.natives fragments log).1.log_eq
    rw [List.map_map]
    exact (List.map_congr_left fun log _ => hlog log).trans (List.map_id' logs)
  have hend : ∀ c ∈ "\n".toList, Json.isBlank c = true := List.all_eq_true.mp (by decide)
  have hread : LogFile.ofText (lines [LogFile.text pretty (logs.map fun log =>
      (decodeAlone c.natives bridge fragments log).withAddresses)]) = .ok logs := by
    rw [lines_singleton, LogFile.ofText_text hdepth pretty hend, hlogs]
  exact ⟨hread, fun again => decodeLogs_of_parsed hread hparsed again⟩

/-- Of these two logs the first is decoded and the second is not; what is printed for both is read
    as both and printed again. -/
theorem decodeLogs_again_owner :
    ∃ (i : Inspector) (text : String),
      i.MadeFrom Inspector.ownerConfig [oneTopic "Owner" "address"] ∧
      LogFile.ofText (lines [text]) = .ok [Inspector.ownerLog, silentLog] ∧
      (decodeLogs i (lines [text]) true).run.value = .ok text := by
  obtain ⟨i, hi, -⟩ := Inspector.exists_ofConfig (c := Inspector.ownerConfig) rfl rfl
    (by decide +kernel)
  have hmade : i.MadeFrom Inspector.ownerConfig [oneTopic "Owner" "address"] := .ofConfig hi
  obtain ⟨ds, hparsed, -, hagain⟩ := decodeLogs_again hmade rfl [Inspector.ownerLog, silentLog]
  rw [parseLogs_owner_silent hmade] at hparsed
  have hdepth : (LogFile.toJson ds).depth ≤ Json.maxDepth := by
    rw [← Except.ok.inj hparsed]
    decide +kernel
  obtain ⟨hread, hprinted⟩ := hagain hdepth true
  exact ⟨i, LogFile.text true ds, hmade, hread, hprinted true⟩

end CommandLine

end ContractLens
