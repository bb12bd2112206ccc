import MmoServer.Rpc.SimpleDelivery
import MmoServer.Rpc.Standalone

set_option autoImplicit false

namespace MmoServer.Rpc.Standalone

open JsonText SimpleClient

section Replies

variable (scan : List UInt8 → String) (now : Int)

-- What the client reads when the request has arrived in one piece, and the reply too.
def replied (sent : Sent) : Except String SimpleJsonResponse :=
  let reply := replyText scan now sent.text
  (unmarshalResponse reply).mapError (failureText scan reply)

theorem replied_eq (sent : Sent) : replied scan now sent = .ok (respond scan now sent.text).received := by
  simp only [replied, reply_text, unmarshal_response]
  rfl

-- The number comes back from the service only: every error is sent with the number 0.
def Answerable (sent : Sent) : Prop := sent.serviceMethod = Json.utf8 echoMethod ∨ sent.sequence = 0

theorem respond_sequence_iff (sent : Sent) : (respond scan now sent.text).sequence = sent.sequence ↔ Answerable sent := by
  by_cases known : sent.serviceMethod = Json.utf8 echoMethod
  · rw [Sent.text_eq, known, respond_echo]
    exact ⟨fun _ => .inl known, fun _ => rfl⟩
  · rw [Sent.text_eq, respond_unknown scan now _ _ _ known]
    exact ⟨fun zero => .inr zero.symm, fun either => (either.resolve_left known).symm⟩

theorem reply_reaches_caller_iff (sent : Sent) :
    ((∃ resp, replied scan now sent = .ok resp ∧ resp.sequence = sent.sequence) ↔ Answerable sent) ∧
    ∀ (actions : List Action) (k : Nat), (actions.foldl step {}).Awaits k sent.simple →
      ((∃ resp, replied scan now sent = .ok resp ∧
        ((actions.foldl step {}).deliver k (replied scan now sent)).outcome k = some (answer resp.simple)) ↔ Answerable sent) := by
  have read := replied_eq scan now sent
  have carries := respond_sequence_iff scan now sent
  have one (P : SimpleJsonResponse → Prop) :
      (∃ resp, replied scan now sent = .ok resp ∧ P resp) ↔ P (respond scan now sent.text).received := by
    simp only [read, Except.ok.injEq, exists_eq_left']
  constructor
  · rw [one fun resp => resp.sequence = sent.sequence, received_sequence]
    exact carries
  · intro actions k awaits
    have returns := deliver_iff _ (listed_run actions) k sent.simple awaits (respond scan now sent.text).received
    rw [received_sequence, Sent.simple, carries] at returns
    rw [one fun resp => outcome _ k = some (answer resp.simple), read]
    exact returns

end Replies

def oneCall (serviceMethod message : String) : SimpleClient :=
  (.call serviceMethod message :: List.replicate 5 (.step 0 {})).foldl step {}

def firstRequest (serviceMethod message : String) : Sent := ⟨Json.utf8 serviceMethod, 1, Json.utf8 message⟩

theorem first_request_simple (serviceMethod message : String) :
    (firstRequest serviceMethod message).simple = ⟨serviceMethod, 1, message⟩ := by
  simp only [Sent.simple, firstRequest, carried_utf8]

theorem one_call_awaits (serviceMethod message : String) :
    (oneCall serviceMethod message).Awaits 0 (firstRequest serviceMethod message).simple := by
  rw [first_request_simple]
  exact ⟨rfl, rfl, _, rfl, rfl, rfl⟩

theorem echo_call_answered :
    ∃ resp, replied (fun _ => "") 0 (firstRequest echoMethod "hi") = .ok resp ∧
      ((oneCall echoMethod "hi").deliver 0 (replied (fun _ => "") 0 (firstRequest echoMethod "hi"))).outcome 0 = some (answer resp.simple) :=
  ((reply_reaches_caller_iff (fun _ => "") 0 (firstRequest echoMethod "hi")).2 _ 0 (one_call_awaits echoMethod "hi")).mpr (.inl rfl)

theorem unknown_method_times_out :
    (oneCall "Chat.Send" "hi").written = [(firstRequest "Chat.Send" "hi").simple] ∧
    replied (fun _ => "") 0 (firstRequest "Chat.Send" "hi") =
      .ok ⟨"", 0, "unknown service method: Chat.Send", [110, 117, 108, 108]⟩ ∧
    ((((oneCall "Chat.Send" "hi").deliver 0 (replied (fun _ => "") 0 (firstRequest "Chat.Send" "hi"))).step
      (.step 0 { wake := .timeout })).step (.step 0 {})).outcome 0 = some (.error .timedOut) := by
  have reply : replied (fun _ => "") 0 (firstRequest "Chat.Send" "hi") =
      .ok ⟨"", 0, "unknown service method: Chat.Send", [110, 117, 108, 108]⟩ := by
    rw [replied_eq, Sent.text_eq, respond_unknown _ _ _ _ _ (by decide +kernel)]
    simp only [firstRequest, carried_utf8]
    rfl
  refine ⟨by rw [first_request_simple]; rfl, reply, ?_⟩
  rw [reply]
  rfl

end MmoServer.Rpc.Standalone
