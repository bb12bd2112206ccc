import MmoServer.Lib.JsonExtend
import MmoServer.Lib.ReadLoop
import MmoServer.Rpc.Standalone

set_option autoImplicit false

-- The two loops that take each read for one message.
namespace MmoServer.Rpc.Standalone

open JsonText ReadLoop

def bufferSize : Nat := 4096

def handleConnection (events : List (Event bufferSize)) : State := events.foldl step {}

def readResponses (events : List (Event bufferSize)) : State := events.foldl step {}

section Accepted

variable {R : Type} (decode : List UInt8 → Except Failure R) (accepts : ∀ data value, decode data = .ok value → readText data ≠ none)
  (texts : List (List UInt8)) (values : List R) (objects : ∀ text ∈ texts, IsObject text)
  (decoded : texts.map decode = values.map .ok)

include accepts objects decoded

theorem decoded_iff (parts finished : List (List UInt8)) (same : finished.Perm parts) (stream : parts.flatten = texts.flatten) :
    (finished.map decode).Perm (values.map .ok) ↔ parts = texts := by
  constructor
  · intro exact_
    refine Delimited.parts_eq_texts objects_delimit texts parts objects (fun part member => ?_) stream
    have result : decode part ∈ values.map .ok := exact_.subset (List.mem_map_of_mem (same.symm.subset member))
    obtain ⟨value, _, ok⟩ := List.mem_map.mp result
    exact accepts part value ok.symm
  · rintro rfl
    rw [← decoded]
    exact same.map decode

theorem loop_decodes_iff (events : List (Event bufferSize)) (stream : (received events).flatten = texts.flatten)
    (ended : (events.foldl step {}).running = []) :
    ((events.foldl step {}).finished.map decode).Perm (values.map .ok) ↔ handed events = texts := by
  refine decoded_iff decode accepts texts values objects decoded (handed events) _ (finished_handed events ended) ?_
  rw [← stream, handed]
  exact handed_flatten events

end Accepted

theorem unmarshal_accepts {S : Type} (typeName : String) (targets : List (Target S)) (zero : S) (data : List UInt8) (value : S)
    (read : unmarshalStruct typeName targets zero data = .ok value) : readText data ≠ none := by
  intro refused
  rw [(unmarshal_struct_malformed_iff typeName targets zero data).mpr refused] at read
  cases read

theorem sent_object (sent : Sent) : IsObject sent.text := by
  rw [Sent.text_eq, requestText, requestValue]
  exact ⟨_, rfl⟩

theorem response_object (resp : Response) : IsObject resp.text := by
  rw [Response.text, responseValue]
  exact ⟨_, rfl⟩

theorem sent_decoded (requests : List Sent) :
    (requests.map Sent.text).map unmarshalRequest = (requests.map Sent.request).map .ok := by
  rw [List.map_map, List.map_map]
  refine List.map_congr_left fun sent _ => ?_
  rw [Function.comp_apply, Function.comp_apply, Sent.text_eq, unmarshal_request, Sent.request]

theorem responses_decoded (responses : List Response) :
    (responses.map Response.text).map unmarshalResponse = (responses.map Response.received).map .ok := by
  rw [List.map_map, List.map_map]
  refine List.map_congr_left fun resp _ => ?_
  rw [Function.comp_apply, Function.comp_apply, unmarshal_response]

theorem messages_whole_iff (requests : List Sent) (serverEvents : List (Event bufferSize))
    (requestStream : (received serverEvents).flatten = (requests.map Sent.text).flatten)
    (serverEnded : (handleConnection serverEvents).running = []) (responses : List Response)
    (clientEvents : List (Event bufferSize)) (responseStream : (received clientEvents).flatten = (responses.map Response.text).flatten)
    (clientEnded : (readResponses clientEvents).running = []) :
    (((handleConnection serverEvents).finished.map unmarshalRequest).Perm ((requests.map Sent.request).map .ok) ↔
      handed serverEvents = requests.map Sent.text) ∧
    (((readResponses clientEvents).finished.map unmarshalResponse).Perm ((responses.map Response.received).map .ok) ↔
      handed clientEvents = responses.map Response.text) := by
  constructor
  · have objects : ∀ text ∈ requests.map Sent.text, IsObject text := by
      rw [List.forall_mem_map]
      exact fun sent _ => sent_object sent
    exact loop_decodes_iff unmarshalRequest (unmarshal_accepts _ requestTargets {}) (requests.map Sent.text)
      (requests.map Sent.request) objects (sent_decoded requests) serverEvents requestStream serverEnded
  · have objects : ∀ text ∈ responses.map Response.text, IsObject text := by
      rw [List.forall_mem_map]
      exact fun resp _ => response_object resp
    exact loop_decodes_iff unmarshalResponse (unmarshal_accepts _ responseTargets emptyResponse) (responses.map Response.text)
      (responses.map Response.received) objects (responses_decoded responses) clientEvents responseStream clientEnded

def oneRead (data : List UInt8) (fits : data.length ≤ bufferSize) : List (Event bufferSize) := [.read (.ok ⟨data, fits⟩), .finish 0]

theorem one_read_stream (data : List UInt8) (fits : data.length ≤ bufferSize) : (received (oneRead data fits)).flatten = data :=
  List.append_nil data

theorem one_read (data : List UInt8) (fits : data.length ≤ bufferSize) (some_ : data.length > 0) :
    (oneRead data fits).foldl step {} = { finished := [data] } ∧ handed (oneRead data fits) = [data] := by
  constructor
  · rw [oneRead, List.foldl_cons, step, if_pos ⟨rfl, some_⟩]
    rfl
  · rw [oneRead, handed, received, received, received, List.filter_cons_of_pos (by simpa using some_), List.filter_nil]

theorem object_some (text : List UInt8) (object : IsObject text) : text.length > 0 := by
  obtain ⟨members, rfl⟩ := object
  exact Nat.succ_pos _

def ping (sequence : UInt64) : Sent := ⟨Json.utf8 echoMethod, sequence, Json.utf8 "hi"⟩

def pong (sequence : UInt64) : Response := echoResponse 0 sequence (Json.utf8 "hi")

theorem ping_fits : (ping 1).text.length ≤ bufferSize := by
  rw [Sent.text_eq]
  decide +kernel

theorem pong_fits : (pong 1).text.length ≤ bufferSize := by decide +kernel

theorem whole_messages_handled :
    ((handleConnection (oneRead (ping 1).text ping_fits)).finished.map unmarshalRequest).Perm
      (([ping 1].map Sent.request).map .ok) ∧
    ((readResponses (oneRead (pong 1).text pong_fits)).finished.map unmarshalResponse).Perm
      (([pong 1].map Response.received).map .ok) := by
  have request := one_read (ping 1).text ping_fits (object_some _ (sent_object _))
  have response := one_read (pong 1).text pong_fits (object_some _ (response_object _))
  have requests : (received (oneRead (ping 1).text ping_fits)).flatten = ([ping 1].map Sent.text).flatten := by
    rw [one_read_stream, List.map_singleton, List.flatten_singleton]
  have responses : (received (oneRead (pong 1).text pong_fits)).flatten = ([pong 1].map Response.text).flatten := by
    rw [one_read_stream, List.map_singleton, List.flatten_singleton]
  have exact_ := messages_whole_iff [ping 1] (oneRead (ping 1).text ping_fits) requests
    (by rw [handleConnection, request.1]) [pong 1] (oneRead (pong 1).text pong_fits) responses (by rw [readResponses, response.1])
  exact ⟨exact_.1.mpr request.2, exact_.2.mpr response.2⟩

theorem merged_malformed (first second : Sent) : unmarshalRequest (first.text ++ second.text) = .error .malformed := by
  have start := objects_delimit.starts second.text (sent_object second)
  have refused := objects_delimit.continued first.text second.text (sent_object first) start
  exact (unmarshal_struct_malformed_iff _ _ _ _).mpr (not_not.mp refused)

theorem pings_fit : ((ping 1).text ++ (ping 2).text).length ≤ bufferSize := by
  rw [Sent.text_eq, Sent.text_eq]
  decide +kernel

theorem merged_requests_lost :
    (received (oneRead _ pings_fit)).flatten = ([ping 1, ping 2].map Sent.text).flatten ∧
    (handleConnection (oneRead _ pings_fit)).running = [] ∧
    (handleConnection (oneRead _ pings_fit)).finished.map unmarshalRequest = [.error .malformed] ∧
    ¬ ((handleConnection (oneRead _ pings_fit)).finished.map unmarshalRequest).Perm (([ping 1, ping 2].map Sent.request).map .ok) := by
  have some_ : ((ping 1).text ++ (ping 2).text).length > 0 := by
    rw [List.length_append]
    exact Nat.add_pos_left (object_some _ (sent_object _)) _
  have read := (one_read _ pings_fit some_).1
  have lost : (handleConnection (oneRead _ pings_fit)).finished.map unmarshalRequest = [.error .malformed] := by
    rw [handleConnection, read, List.map_singleton, merged_malformed]
  refine ⟨?_, by rw [handleConnection, read], lost, ?_⟩
  · rw [one_read_stream]
    simp only [List.map_cons, List.map_nil, List.flatten_cons, List.flatten_nil, List.append_nil]
  · rw [lost]
    intro same
    cases same.length_eq

end MmoServer.Rpc.Standalone
