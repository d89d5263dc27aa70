import ContractLens.Config
import ContractLens.Node.Block
import ContractLens.Proofs.Abi.Fragment

/-!
# Records of a node and configurations read back

The logs, blocks, receipts and traces of a node and the configurations are read back from the JSON
values that are written for them. Some of their fields are left out where there is nothing to write
and others are `null` there; both are read as nothing. A number is written as a number, though it may
be read from a text as well.

* `RawLog.ofJson?_of_record`: a log, also from an object with further fields.
* `Block.readsBack`, `Receipt.readsBack`, `InternalTransaction.ofJson?_inForm`, `Config.readsBack`:
  the other records.
* `records_read_back`: all of them, as they are written and with their keys sorted.
-/

namespace ContractLens

open Json (Form inForm ReadsBack)

/-! ## Logs -/

namespace RawLog

theorem keys_toFields (log : RawLog) : (Json.keys log.toFields).Sublist fieldNames := by
  simp only [toFields, Json.keys_append]
  exact ((((List.Sublist.refl _).append (Json.keys_fieldOfOption _ _ _)).append
    (Json.keys_fieldOfOption _ _ _)).append (Json.keys_fieldOfOption _ _ _)).append
    (Json.keys_fieldOfOption _ _ _)

/-- The fields of a log that are left out where nothing is known. -/
theorem lookup_toFields_optional (log : RawLog) :
    log.toFields.lookup "blockHash" = log.blockHash.map Json.str ∧
    log.toFields.lookup "transactionHash" = log.transactionHash.map Json.str ∧
    log.toFields.lookup "transactionIndex" = log.transactionIndex.map Json.ofWord ∧
    log.toFields.lookup "logIndex" = log.logIndex.map Json.ofWord := by
  refine ⟨?_, ?_, ?_, ?_⟩ <;>
    simp [toFields, List.lookup_append, List.lookup_cons, Json.lookup_fieldOfOption]

/-- A log is read from a record that has its fields in a form. -/
theorem ofJson?_of_record (form : Form) {log : RawLog} {value : Json} {r : Json.Record}
    (hr : value.record? fieldNames = some r)
    (hget : ∀ name ∈ fieldNames, r.get? name = (log.toFields.lookup name).map (inForm form)) :
    ofJson? value = some log := by
  have hquantity := Json.readsBack_nullableQuantity
  have hreadAddress : r.required "address" Json.text? = some log.address :=
    Json.readsBack_text.required (hget "address" (by decide)) rfl
  have hreadTopics : r.withDefault "topics" [] (Json.list? Json.text?) = some log.topics :=
    Json.readsBack_text.list.withDefault (hget "topics" (by decide)) (Or.inl rfl)
  have hreadData : r.withDefault "data" "0x" Json.text? = some log.data :=
    Json.readsBack_text.withDefault (hget "data" (by decide)) (Or.inl rfl)
  have hreadNumber : r.withDefault "blockNumber" none Quantity.ofNullable? =
      some log.blockNumber :=
    hquantity.withDefault (hget "blockNumber" (by decide)) (Or.inl rfl)
  obtain ⟨hblock, htransaction, hindex, hplace⟩ := log.lookup_toFields_optional
  have hreadBlock : r.optional "blockHash" Json.text? = some log.blockHash :=
    Json.readsBack_text.optional rfl (hget "blockHash" (by decide)) (hblock ▸ Json.holds_map _ _)
  have hreadTransaction : r.optional "transactionHash" Json.text? = some log.transactionHash :=
    Json.readsBack_text.optional rfl (hget "transactionHash" (by decide))
      (htransaction ▸ Json.holds_map _ _)
  have hreadIndex : r.withDefault "transactionIndex" none Quantity.ofNullable? =
      some log.transactionIndex :=
    hquantity.withDefault (hget "transactionIndex" (by decide)) (hindex ▸ Json.holds_map _ _)
  have hreadPlace : r.withDefault "logIndex" none Quantity.ofNullable? = some log.logIndex :=
    hquantity.withDefault (hget "logIndex" (by decide)) (hplace ▸ Json.holds_map _ _)
  rw [ofJson?, hr]
  simp only [Option.bind_eq_bind, Option.bind_some, hreadAddress, hreadTopics, hreadData,
    hreadNumber, hreadBlock, hreadTransaction, hreadIndex, hreadPlace]
  rfl

theorem readsBack : ReadsBack ofJson? toJson := by
  intro form log
  have hall : fieldNames.Nodup := by decide
  obtain ⟨r, hr, hget⟩ :=
    Json.record?_inForm form log.toJson rfl (hall.sublist log.keys_toFields) fieldNames
  exact ofJson?_of_record form hr hget

end RawLog

/-! ## Blocks -/

theorem BlockTransaction.readsBack : ReadsBack ofJson? toJson := by
  intro form tx
  have hnodup : ["hash", "from", "to", "blockNumber"].Nodup := by decide
  obtain ⟨r, hr, hget⟩ := Json.record?_inForm form tx.toJson rfl hnodup
    ["hash", "from", "to", "blockNumber"]
  have hreadHash : r.required "hash" Json.text? = some tx.hash :=
    Json.readsBack_text.required (hget "hash" (by decide)) rfl
  have hreadSender : r.optional "from" Json.text? = some tx.sender :=
    Json.readsBack_text.optional rfl (hget "from" (by decide)) (Or.inl rfl)
  have hreadRecipient : r.optional "to" Json.text? = some tx.recipient :=
    Json.readsBack_text.optional rfl (hget "to" (by decide)) (Or.inl rfl)
  have hreadNumber : r.withDefault "blockNumber" none Quantity.ofNullable? =
      some tx.blockNumber :=
    Json.readsBack_nullableQuantity.withDefault (hget "blockNumber" (by decide)) (Or.inl rfl)
  rw [ofJson?, hr]
  simp only [Option.bind_eq_bind, Option.bind_some, hreadHash, hreadSender, hreadRecipient,
    hreadNumber]
  rfl

theorem Block.readsBack : ReadsBack ofJson? toJson := by
  intro form b
  have hnodup : ["number", "hash", "timestamp", "transactions"].Nodup := by decide
  obtain ⟨r, hr, hget⟩ := Json.record?_inForm form b.toJson rfl hnodup
    ["number", "hash", "timestamp", "transactions"]
  have hreadNumber : r.required "number" Quantity.ofJson? = some b.number :=
    Json.readsBack_quantity.required (hget "number" (by decide)) rfl
  have hreadHash : r.required "hash" Json.text? = some b.hash :=
    Json.readsBack_text.required (hget "hash" (by decide)) rfl
  have hreadTime : r.withDefault "timestamp" 0 Quantity.ofJson? = some b.timestamp :=
    Json.readsBack_quantity.withDefault (hget "timestamp" (by decide)) (Or.inl rfl)
  have hreadTransactions : r.withDefault "transactions" [] (Json.list? BlockTransaction.ofJson?) =
      some b.transactions :=
    BlockTransaction.readsBack.list.withDefault (hget "transactions" (by decide)) (Or.inl rfl)
  rw [ofJson?, hr]
  simp only [Option.bind_eq_bind, Option.bind_some, hreadNumber, hreadHash, hreadTime,
    hreadTransactions]
  rfl

/-! ## Receipts -/

theorem Receipt.readsBack : ReadsBack ofJson? toJson := by
  intro form receipt
  have hnodup : ["transactionHash", "contractAddress", "blockNumber", "logs"].Nodup := by decide
  obtain ⟨r, hr, hget⟩ := Json.record?_inForm form receipt.toJson rfl hnodup
    ["transactionHash", "contractAddress", "blockNumber", "logs"]
  have hreadHash : r.required "transactionHash" Json.text? = some receipt.transactionHash :=
    Json.readsBack_text.required (hget "transactionHash" (by decide)) rfl
  have hreadAddress : r.optional "contractAddress" Json.text? = some receipt.contractAddress :=
    Json.readsBack_text.optional rfl (hget "contractAddress" (by decide)) (Or.inl rfl)
  have hreadNumber : r.withDefault "blockNumber" none Quantity.ofNullable? =
      some receipt.blockNumber :=
    Json.readsBack_nullableQuantity.withDefault (hget "blockNumber" (by decide)) (Or.inl rfl)
  have hreadLogs : r.withDefault "logs" [] (Json.list? RawLog.ofJson?) = some receipt.logs :=
    RawLog.readsBack.list.withDefault (hget "logs" (by decide)) (Or.inl rfl)
  rw [ofJson?, hr]
  simp only [Option.bind_eq_bind, Option.bind_some, hreadHash, hreadAddress, hreadNumber, hreadLogs]
  rfl

/-! ## Traces -/

theorem TraceResult.readsBack : ReadsBack ofJson? toJson := by
  intro form result
  have hnodup : ["address"].Nodup := by decide
  obtain ⟨r, hr, hget⟩ := Json.record?_inForm form result.toJson rfl hnodup ["address"]
  have hreadAddress : r.optional "address" Json.text? = some result.address :=
    Json.readsBack_text.optional rfl (hget "address" (by decide)) (Or.inl rfl)
  rw [ofJson?, hr]
  simp only [Option.bind_eq_bind, Option.bind_some, hreadAddress]
  rfl

/-- An entry of a trace is read back. Its action is kept as it is given, whatever it is. -/
theorem InternalTransaction.ofJson?_inForm (form : Form) (t : InternalTransaction) :
    ofJson? (inForm form t.toJson) = some { t with action := inForm form t.action } := by
  have hnodup : ["type", "result", "transactionHash", "blockNumber", "action"].Nodup := by decide
  obtain ⟨r, hr, hget⟩ := Json.record?_inForm form t.toJson rfl hnodup
    ["type", "result", "transactionHash", "blockNumber", "action"]
  have hreadKind : r.optional "type" Json.text? = some t.kind :=
    Json.readsBack_text.optional rfl (hget "type" (by decide)) (Or.inl rfl)
  have hreadResult : r.optional "result" TraceResult.ofJson? = some t.result :=
    TraceResult.readsBack.optional rfl (hget "result" (by decide)) (Or.inl rfl)
  have hreadHash : r.optional "transactionHash" Json.text? = some t.transactionHash :=
    Json.readsBack_text.optional rfl (hget "transactionHash" (by decide)) (Or.inl rfl)
  have hreadNumber : r.withDefault "blockNumber" none Quantity.ofNullable? = some t.blockNumber :=
    Json.readsBack_nullableQuantity.withDefault (hget "blockNumber" (by decide)) (Or.inl rfl)
  have hreadAction : r.withDefault "action" .null some = some (inForm form t.action) := by
    rw [Json.Record.withDefault, hget "action" (by decide)]
    rfl
  rw [ofJson?, hr]
  simp only [Option.bind_eq_bind, Option.bind_some, hreadKind, hreadResult, hreadHash,
    hreadNumber, hreadAction]
  rfl

/-! ## Configurations -/

theorem NativeConfig.readsBack : ReadsBack ofJson? toJson := by
  intro form c
  have hnodup : ["bridge", "remasc"].Nodup := by decide
  obtain ⟨r, hr, hget⟩ := Json.record?_inForm form c.toJson rfl hnodup ["bridge", "remasc"]
  have hreadBridge : r.withDefault "bridge" standard.bridge Json.text? = some c.bridge :=
    Json.readsBack_text.withDefault (hget "bridge" (by decide)) (Or.inl rfl)
  have hreadRemasc : r.withDefault "remasc" standard.remasc Json.text? = some c.remasc :=
    Json.readsBack_text.withDefault (hget "remasc" (by decide)) (Or.inl rfl)
  rw [ofJson?, hr]
  simp only [Option.bind_eq_bind, Option.bind_some, hreadBridge, hreadRemasc]
  rfl

namespace Config

theorem readsBack_id : ReadsBack idOfJson? Json.ofWord := by
  intro form n
  rw [Json.inForm_ofWord]
  exact Json.word?_ofWord n

theorem readsBack_net : ReadsBack netOfJson? fun id => .obj [("id", .ofWord id)] := by
  intro form n
  have hnodup : ["id"].Nodup := by decide
  obtain ⟨r, hr, hget⟩ := Json.record?_inForm form (.obj [("id", .ofWord n)]) rfl hnodup ["id"]
  have hreadId : r.required "id" idOfJson? = some n :=
    readsBack_id.required (hget "id" (by decide)) rfl
  rw [netOfJson?, hr]
  exact hreadId

theorem readsBack : ReadsBack ofJson? toJson := by
  intro form c
  have hnodup : ["nativeContracts", "net", "abi"].Nodup := by decide
  obtain ⟨r, hr, hget⟩ := Json.record?_inForm form c.toJson rfl hnodup
    ["nativeContracts", "net", "abi"]
  have hreadNatives : r.withDefault "nativeContracts" .standard NativeConfig.ofJson? =
      some c.natives :=
    NativeConfig.readsBack.withDefault (hget "nativeContracts" (by decide)) (Or.inl rfl)
  have hreadNet : r.optional "net" netOfJson? = some c.networkId :=
    readsBack_net.optional rfl (hget "net" (by decide)) (Or.inl rfl)
  have hreadAbi : r.optional "abi" Abi.Fragment.listOfJson? = some c.abi :=
    Abi.Fragment.readsBack_list.optional rfl (hget "abi" (by decide)) (Or.inl rfl)
  rw [ofJson?, hr]
  simp only [Option.bind_eq_bind, Option.bind_some, hreadNatives, hreadNet, hreadAbi]
  rfl

end Config

/-- Every fragment with parameters nested to any depth, every log, block and receipt and every
    configuration is read back from the JSON value that is written for it, both as it is written and
    with sorted keys. So is every entry of a trace; its action is a JSON value itself, whose keys
    are sorted with the others. -/
theorem records_read_back :
    (∀ f : Abi.Fragment, Abi.Fragment.ofJson? f.toJson = some f ∧
      Abi.Fragment.ofJson? f.toJson.canonical = some f) ∧
    (∀ log : RawLog, RawLog.ofJson? log.toJson = some log ∧
      RawLog.ofJson? log.toJson.canonical = some log) ∧
    (∀ b : Block, Block.ofJson? b.toJson = some b ∧ Block.ofJson? b.toJson.canonical = some b) ∧
    (∀ r : Receipt, Receipt.ofJson? r.toJson = some r ∧
      Receipt.ofJson? r.toJson.canonical = some r) ∧
    (∀ t : InternalTransaction, InternalTransaction.ofJson? t.toJson = some t ∧
      InternalTransaction.ofJson? t.toJson.canonical =
        some { t with action := t.action.canonical }) ∧
    ∀ c : Config, Config.ofJson? c.toJson = some c ∧ Config.ofJson? c.toJson.canonical = some c :=
  ⟨Abi.Fragment.readsBack.both, RawLog.readsBack.both, Block.readsBack.both,
    Receipt.readsBack.both,
    fun t => ⟨t.ofJson?_inForm .written, t.ofJson?_inForm .canonical⟩, Config.readsBack.both⟩

end ContractLens
