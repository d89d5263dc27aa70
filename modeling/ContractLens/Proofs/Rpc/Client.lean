import ContractLens.Proofs.Quantity
import ContractLens.Rpc.Client

/-!
# Requests and answers of a client

A client that is asked one question after the other sends one request for each of them and numbers
the requests from one, whatever comes of them. It keeps what it has sent, in order. So no two
requests are equal, and a transport can reply to each of them in a way of its own. What a question
is answered with depends on the reply to its request alone.

* `params_tagPlace`: where a request names the block that its question is about.
* `answersBy_readReply`: what the answer is for each kind of reply.
* `client_askAll`: the requests that a client has sent are those of its exchanges.
* `getElem?_exchanges`: each question is put by the client that the questions before it have left.
* `askAll_spec`: the requests that are sent, their numbers and blocks, and the answers.
* `exists_transport_of_replies`: some transport gives any replies whatever.
-/

namespace ContractLens

/-! ## The block of a question -/

namespace NodeCall

/-- The block that a question is about. -/
def tag? : NodeCall → Option BlockTag
  | code _ tag | storage _ _ tag | call _ _ tag | block tag _ => some tag
  | blockNumber | receipt _ | trace _ => none

/-- The place of this block among the parameters of the request. -/
def tagPlace : NodeCall → ℕ
  | code .. | call .. => 1
  | storage .. => 2
  | blockNumber | block .. | receipt _ | trace _ => 0

theorem params_tagPlace {call : NodeCall} {tag : BlockTag} (h : call.tag? = some tag) :
    call.params[call.tagPlace]? = some (.str tag.text) := by
  cases call <;> cases h <;> rfl

end NodeCall

namespace Rpc

/-- A parameter of a request is a text that is read as this tag. -/
def Request.HasTag (request : Request) (place : ℕ) (tag : BlockTag) : Prop :=
  ∃ text, request.params[place]? = some (.str text) ∧ BlockTag.ofText text = .ok tag

theorem hasTag_request {call : NodeCall} {tag : BlockTag} (h : call.tag? = some tag)
    (id : UInt64) : (call.request id).HasTag call.tagPlace tag :=
  ⟨tag.text, NodeCall.params_tagPlace h, BlockTag.ofText_text tag⟩

/-! ## Replies -/

/-- What answers a question, given the reply to its request. -/
structure AnswersBy (call : NodeCall) (reply : Except TransportError Response)
    (answer : Except NodeError call.Answer) : Prop where
  /-- Nothing but the reply counts. -/
  reply_only : answer = readReply call reply
  /-- An error that the transport itself takes for one of the node keeps its code and message. -/
  reported : ∀ e, reply = .error (.rpc e) → answer = .error (.rpc e.code e.message)
  malformed : reply = .error .malformed → answer = .error .malformed
  /-- Any other failure of the transport keeps its message. -/
  unreachable : ∀ e, reply = .error e → e ≠ .malformed → (∀ f, e ≠ .rpc f) →
    answer = .error (.transport e.message)
  /-- An error in the response counts even if there is a result. -/
  failed : ∀ response e, reply = .ok response → response.error = some e →
    answer = .error (.rpc e.code e.message)
  result : ∀ response value, reply = .ok response → response.error = none →
    response.result = some value → answer = call.read value
  /-- A response without a result is answered like one whose result is `null`. -/
  no_result : ∀ response, reply = .ok response → response.result = none →
    answer = readReply call (.ok { response with result := some .null })

theorem toNodeError_eq_transport {e : TransportError} (hmalformed : e ≠ .malformed)
    (hrpc : ∀ f, e ≠ .rpc f) : e.toNodeError = .transport e.message := by
  cases e with
  | http => rfl
  | timeout => rfl
  | rpc f => exact absurd rfl (hrpc f)
  | malformed => exact absurd rfl hmalformed
  | setup => rfl

theorem readReply_of_error {call : NodeCall} {response : Response} {e : CallError}
    (h : response.error = some e) :
    readReply call (.ok response) = .error (.rpc e.code e.message) := by
  rw [readReply, Response.outcome, h]
  rfl

theorem readReply_of_result {call : NodeCall} {response : Response} (h : response.error = none) :
    readReply call (.ok response) = call.read (response.result.getD .null) := by
  rw [readReply, Response.outcome, h]

theorem readReply_of_no_result {call : NodeCall} {response : Response}
    (h : response.result = none) : readReply call (.ok response) =
      readReply call (.ok { response with result := some .null }) := by
  rw [readReply, readReply, Response.outcome, Response.outcome, h]
  rfl

theorem answersBy_readReply (call : NodeCall) (reply : Except TransportError Response) :
    AnswersBy call reply (readReply call reply) where
  reply_only := rfl
  reported := by
    rintro e rfl
    rfl
  malformed := by
    rintro rfl
    rfl
  unreachable := by
    rintro e rfl hmalformed hrpc
    exact congrArg Except.error (toNodeError_eq_transport hmalformed hrpc)
  failed := by
    rintro response e rfl herror
    exact readReply_of_error herror
  result := by
    rintro response value rfl herror hvalue
    rw [readReply_of_result herror, hvalue, Option.getD_some]
  no_result := by
    rintro response rfl hnone
    exact readReply_of_no_result hnone

/-! ## Questions one after the other -/

/-- Questions that were put one after the other: their exchanges, and the client after them. -/
structure Dialogue where
  exchanges : List (Sigma Exchange)
  client : Client

/-- The requests of the exchanges. -/
def Dialogue.requests (d : Dialogue) : List Request := d.exchanges.map fun x => x.2.request

namespace Client

/-- Questions put one after the other. -/
def askAll (client : Client) : List NodeCall → Noted Dialogue
  | [] => pure ⟨[], client⟩
  | call :: calls => do
    let exchange ← client.ask call
    let later ← exchange.client.askAll calls
    return { later with exchanges := ⟨call, exchange⟩ :: later.exchanges }

/-- The client after it has sent these requests, one for each number. -/
def after (client : Client) (requests : List Request) : Client :=
  ⟨client.transport, client.nextId + UInt64.ofNat requests.length, client.sent ++ requests⟩

theorem after_nil (client : Client) : client.after [] = client := by
  rw [after, List.append_nil, List.length_nil, show UInt64.ofNat 0 = 0 from rfl, UInt64.add_zero]

theorem after_after (client : Client) (earlier later : List Request) :
    (client.after earlier).after later = client.after (earlier ++ later) := by
  simp only [after, List.length_append, UInt64.ofNat_add, UInt64.add_assoc, List.append_assoc]

/-- A question is one request, whatever its answer is. -/
theorem client_ask (client : Client) (call : NodeCall) :
    (client.ask call).value.client = client.after [(client.ask call).value.request] := rfl

theorem askAll_cons (client : Client) (call : NodeCall) (calls : List NodeCall) :
    (client.askAll (call :: calls)).value =
      let exchange := (client.ask call).value
      let later := (exchange.client.askAll calls).value
      ⟨⟨call, exchange⟩ :: later.exchanges, later.client⟩ := rfl

theorem length_exchanges (client : Client) (calls : List NodeCall) :
    (client.askAll calls).value.exchanges.length = calls.length := by
  induction calls generalizing client with
  | nil => rfl
  | cons call calls ih =>
    rw [askAll_cons]
    exact congrArg Nat.succ (ih _)

/-- A dialogue sends the requests of its exchanges, in order, whatever the answers are. -/
theorem client_askAll (client : Client) (calls : List NodeCall) :
    (client.askAll calls).value.client = client.after (client.askAll calls).value.requests := by
  induction calls generalizing client with
  | nil => exact client.after_nil.symm
  | cons call calls ih =>
    rw [askAll_cons]
    exact (ih _).trans (by rw [client_ask, after_after]; rfl)

/-- Each question is put by the client that the questions before it have left. -/
theorem getElem?_exchanges (client : Client) {calls : List NodeCall} {k : ℕ} {call : NodeCall}
    (h : calls[k]? = some call) :
    (client.askAll calls).value.exchanges[k]? = some
      ⟨call, ((client.after ((client.askAll calls).value.requests.take k)).ask call).value⟩ := by
  induction calls generalizing client k with
  | nil => cases h
  | cons first calls ih =>
    rw [askAll_cons]
    cases k with
    | zero =>
      obtain rfl := Option.some.inj h
      rw [List.take_zero, after_nil]
      rfl
    | succ k =>
      have hlater := ih (client.ask first).value.client h
      rw [client_ask, after_after] at hlater
      exact hlater

theorem length_requests (client : Client) (calls : List NodeCall) :
    (client.askAll calls).value.requests.length = calls.length := by
  rw [Dialogue.requests, List.length_map, length_exchanges]

/-- A new client has sent nothing before. -/
theorem sent_askAll (transport : Transport) (calls : List NodeCall) :
    ((ofTransport transport).askAll calls).value.client.sent =
      ((ofTransport transport).askAll calls).value.requests := by
  rw [client_askAll]
  rfl

theorem toNat_nextId_after (transport : Transport) {requests : List Request}
    (h : requests.length + 1 < 2 ^ 64) :
    ((ofTransport transport).after requests).nextId.toNat = requests.length + 1 := by
  change (1 + UInt64.ofNat requests.length).toNat = requests.length + 1
  rw [UInt64.toNat_add, UInt64.toNat_ofNat', Nat.mod_eq_of_lt (by omega : requests.length < 2 ^ 64)]
  change (1 + requests.length) % 2 ^ 64 = requests.length + 1
  rw [Nat.mod_eq_of_lt (by omega), Nat.add_comm]

/-- The exchange of one of the questions: its request bears the next number, is the last one sent so
    far, and is all that the answer depends on. -/
theorem exists_exchange (transport : Transport) {calls : List NodeCall}
    (h : calls.length < 2 ^ 64) {k : ℕ} {call : NodeCall} (hcall : calls[k]? = some call) :
    ∃ x : Exchange call,
      ((ofTransport transport).askAll calls).value.exchanges[k]? = some ⟨call, x⟩ ∧
      x.client.sent = ((ofTransport transport).askAll calls).value.requests.take (k + 1) ∧
      x.request.id.toNat = k + 1 ∧ x.request = call.request x.request.id ∧
      x.answer = readReply call (transport.send x.request) := by
  have hget := getElem?_exchanges (ofTransport transport) hcall
  have hlength := length_requests (ofTransport transport) calls
  set requests := ((ofTransport transport).askAll calls).value.requests with hrequests
  have hk : k < calls.length := (List.getElem?_eq_some_iff.mp hcall).1
  have htake : (requests.take k).length = k := by
    rw [List.length_take, hlength, Nat.min_eq_left hk.le]
  refine ⟨_, hget, ?_, ?_, rfl, rfl⟩
  · have hlast : requests[k]? =
        some (((ofTransport transport).after (requests.take k)).ask call).value.request := by
      rw [hrequests, Dialogue.requests, List.getElem?_map, hget]
      rfl
    rw [client_ask, after_after, List.take_add_one, hlast]
    rfl
  · exact (toNat_nextId_after transport (by omega)).trans (by rw [htake])

/-- The numbers of the requests in order. -/
theorem map_id_sent (transport : Transport) {calls : List NodeCall} (h : calls.length < 2 ^ 64) :
    (((ofTransport transport).askAll calls).value.client.sent.map fun r => r.id.toNat) =
      List.range' 1 calls.length := by
  rw [sent_askAll]
  refine List.ext_getElem (by rw [List.length_map, length_requests, List.length_range']) ?_
  intro k hk _
  rw [List.length_map, length_requests] at hk
  obtain ⟨x, hx, -, hid, -⟩ := exists_exchange transport h (List.getElem?_eq_getElem hk)
  simp only [Dialogue.requests, List.map_map, List.getElem_map, List.getElem_range']
  rw [(List.getElem?_eq_some_iff.mp hx).2]
  exact hid.trans (by omega)

/-- Some transport gives any replies whatever, even if they come from a node that changes. -/
theorem exists_transport_of_replies (url : String) {calls : List NodeCall}
    (h : calls.length < 2 ^ 64) {replies : List (Except TransportError Response)}
    (hlength : replies.length = calls.length) :
    ∃ transport : Transport, transport.url = url ∧
      ((ofTransport transport).askAll calls).value.client.sent.map transport.send = replies := by
  -- the number of a request tells which reply is next
  let reply (n : ℕ) := replies.getD (n - 1) (.error .malformed)
  let transport : Transport := ⟨url, fun request => reply request.id.toNat⟩
  refine ⟨transport, rfl, ?_⟩
  calc ((ofTransport transport).askAll calls).value.client.sent.map transport.send
    _ = (((ofTransport transport).askAll calls).value.client.sent.map fun r => r.id.toNat).map
        reply := by rw [List.map_map]; rfl
    _ = (List.range' 1 replies.length).map reply := by rw [map_id_sent transport h, hlength]
    _ = replies := by
      refine List.ext_getElem (by rw [List.length_map, List.length_range']) fun k hk hk' => ?_
      rw [List.getElem_map, List.getElem_range', Nat.one_mul]
      simp only [reply, Nat.add_sub_cancel_left]
      rw [List.getD_eq_getElem?_getD, List.getElem?_eq_getElem hk', Option.getD_some]

/-- A client sends one request for each question and nothing else: after a question it has sent the
    requests of this question and of those before it. The numbers of the requests count from one, so
    that no two are the same; a request names the block of its question by a text that is read as
    this block; and the answer is the one by the reply to the request. -/
theorem askAll_spec (transport : Transport) {calls : List NodeCall} (h : calls.length < 2 ^ 64) :
    let d := ((ofTransport transport).askAll calls).value
    d.exchanges.length = calls.length ∧
    d.client.sent = (d.exchanges.map fun x => x.2.request) ∧
    (d.client.sent.map Request.id).Nodup ∧
    ∀ k call, calls[k]? = some call → ∃ x : Exchange call,
      d.exchanges[k]? = some ⟨call, x⟩ ∧ x.client.sent = d.client.sent.take (k + 1) ∧
      x.request.id.toNat = k + 1 ∧
      (∀ tag, call.tag? = some tag → x.request.HasTag call.tagPlace tag) ∧
      AnswersBy call (transport.send x.request) x.answer := by
  intro d
  have hsent : d.client.sent = d.requests := sent_askAll transport calls
  refine ⟨length_exchanges _ calls, hsent, ?_, ?_⟩
  · have hnodup : (List.range' 1 calls.length).Nodup := List.nodup_range'
    rw [← map_id_sent transport h] at hnodup
    exact List.Nodup.of_map UInt64.toNat (by rwa [List.map_map])
  · intro k call hcall
    obtain ⟨x, hx, hlog, hid, hrequest, hanswer⟩ := exists_exchange transport h hcall
    refine ⟨x, hx, by rw [hsent, hlog], hid, fun tag htag => ?_, ?_⟩
    · rw [hrequest]
      exact hasTag_request htag _
    · rw [hanswer]
      exact answersBy_readReply call _

/-- A request that times out, one with a result beside the error and one without a result. -/
theorem askAll_three_replies :
    let revert : CallError := ⟨-32000, "execution reverted", none⟩
    let transport : Transport := ⟨"http://localhost:4444", fun request =>
      if request.id = 1 then .error (.timeout 500)
      else if request.id = 2 then .ok ⟨version, .int 2, some (.str "0x"), some revert⟩
      else .ok ⟨version, .int 3, none, none⟩⟩
    let calls : List NodeCall :=
      [.blockNumber, .call "0xbeac" "0x5c60da1b" (.number 26), .receipt "0xabc"]
    calls.length < 2 ^ 64 ∧ ∃ (x : Exchange .blockNumber)
      (y : Exchange (.call "0xbeac" "0x5c60da1b" (.number 26))) (z : Exchange (.receipt "0xabc"))
      (client : Client),
      ((ofTransport transport).askAll calls).value =
        ⟨[⟨_, x⟩, ⟨_, y⟩, ⟨_, z⟩], client⟩ ∧
      client.sent = [x.request, y.request, z.request] ∧
      x.request.id.toNat = 1 ∧ y.request.id.toNat = 2 ∧ z.request.id.toNat = 3 ∧
      y.request.HasTag 1 (.number 26) ∧
      x.answer = .error (.transport "Request timed out after 500ms") ∧
      y.answer = .error (.rpc (-32000) "execution reverted") ∧
      z.answer = .ok (none : Option Receipt) := by
  intro revert transport calls
  have hcalls : calls.length < 2 ^ 64 := by decide
  obtain ⟨-, hsent, -, hget⟩ := askAll_spec transport hcalls
  obtain ⟨x, hx, -, hx1, -, hxa⟩ := hget 0 _ rfl
  obtain ⟨y, hy, -, hy2, hyt, hya⟩ := hget 1 _ rfl
  obtain ⟨z, hz, -, hz3, -, hza⟩ := hget 2 _ rfl
  cases hx
  cases hy
  cases hz
  refine ⟨hcalls, _, _, _, _, rfl, hsent, hx1, hy2, hz3, hyt _ rfl, ?_, ?_, ?_⟩
  · exact hxa.unreachable _ rfl nofun nofun
  · exact hya.failed _ revert rfl rfl
  · exact hza.no_result _ rfl rfl

end Client

end Rpc

end ContractLens
