import MmoServer.Lib.JsonStruct
import MmoServer.Rpc.SimpleClient

set_option autoImplicit false

-- The messages of the standalone server and of SimpleClient, and what the server answers.
namespace MmoServer.Rpc.Standalone

open JsonText

section Messages

structure Request where
  serviceMethod : String := ""
  sequence : UInt64 := 0
  args : List UInt8 := []
deriving DecidableEq, Repr

structure EchoArgs where
  message : String := ""
deriving DecidableEq, Repr

structure EchoReply where
  message : String
  time : Int
deriving DecidableEq, Repr

-- A response as the server builds it. Without a reply its RawMessage is nil.
structure Response where
  serviceMethod : String
  sequence : UInt64
  error : String
  reply : Option EchoReply
deriving DecidableEq, Repr

def requestTargets : List (Target Request) :=
  [⟨"service_method", storeString "SimpleJsonRequest.service_method" fun text s => { s with serviceMethod := text }⟩,
    ⟨"sequence", storeUint "SimpleJsonRequest.sequence" "uint64" (2 ^ 64) fun value s => { s with sequence := UInt64.ofNat value }⟩,
    ⟨"args", storeRaw fun raw s => { s with args := raw }⟩]

def unmarshalRequest (data : List UInt8) : Except Failure Request :=
  unmarshalStruct "rpc.SimpleJsonRequest" requestTargets {} data

def argsTargets : List (Target EchoArgs) :=
  [⟨"message", storeString "EchoArgs.message" fun text s => { s with message := text }⟩]

def unmarshalArgs (data : List UInt8) : Except Failure EchoArgs := unmarshalStruct "rpc.EchoArgs" argsTargets {} data

def emptyResponse : SimpleJsonResponse := ⟨"", 0, "", []⟩

def responseTargets : List (Target SimpleJsonResponse) :=
  [⟨"service_method", storeString "SimpleJsonResponse.service_method" fun text s => { s with serviceMethod := text }⟩,
    ⟨"sequence", storeUint "SimpleJsonResponse.sequence" "uint64" (2 ^ 64) fun value s => { s with sequence := UInt64.ofNat value }⟩,
    ⟨"error", storeString "SimpleJsonResponse.error" fun text s => { s with error := text }⟩,
    ⟨"reply", storeRaw fun raw s => { s with reply := raw }⟩]

def unmarshalResponse (data : List UInt8) : Except Failure SimpleJsonResponse :=
  unmarshalStruct "rpc.SimpleJsonResponse" responseTargets emptyResponse data

-- A RawMessage in a struct that Marshal writes; none is the error for a text that is no JSON.
def marshalRaw (raw : List UInt8) : Option Value := (readText raw).map escapeValue

def argsValue (message : List UInt8) : Value := .object [field "message" (.string (quote message))]

def requestValue (serviceMethod : List UInt8) (sequence : UInt64) (args : Value) : Value :=
  .object [field "service_method" (.string (quote serviceMethod)), field "sequence" (.number (.ofNat sequence.toNat)),
    field "args" args]

def marshalRequest (serviceMethod : List UInt8) (sequence : UInt64) (args : List UInt8) : Option (List UInt8) :=
  (marshalRaw args).map fun args => write (requestValue serviceMethod sequence args)

def requestText (serviceMethod : List UInt8) (sequence : UInt64) (message : List UInt8) : List UInt8 :=
  write (requestValue serviceMethod sequence (argsValue message))

def replyValue (reply : EchoReply) : Value :=
  .object [field "message" (.string (quote (Json.utf8 reply.message))), field "time" (.number (.ofInt reply.time))]

def responseValue (resp : Response) (reply : Value) : Value :=
  .object [field "service_method" (.string (quote (Json.utf8 resp.serviceMethod))),
    field "sequence" (.number (.ofNat resp.sequence.toNat)), field "error" (.string (quote (Json.utf8 resp.error))),
    field "reply" reply]

def marshalResponse (resp : Response) : Option (List UInt8) :=
  match resp.reply with
  | none => some (write (responseValue resp .null))
  | some reply => (marshalRaw (write (replyValue reply))).map fun reply => write (responseValue resp reply)

def Response.replyValue (resp : Response) : Value := resp.reply.elim .null Standalone.replyValue

def Response.text (resp : Response) : List UInt8 := write (responseValue resp resp.replyValue)

end Messages

section Texts

theorem marshal_raw_kept (value : Value) (shallow : value.nesting ≤ maxNestingDepth) (kept : escapeValue value = value) :
    marshalRaw (write value) = some value := by
  rw [marshalRaw, read_text value shallow, Option.map_some, kept]

variable (resp : Response) (message : List UInt8) (serviceMethod : List UInt8) (sequence : UInt64)

theorem args_shallow : (argsValue message).nesting = 1 := rfl

theorem reply_shallow (reply : EchoReply) : (replyValue reply).nesting = 1 := rfl

theorem request_shallow (message : List UInt8) : (requestValue serviceMethod sequence (argsValue message)).nesting = 2 := rfl

theorem response_shallow : (responseValue resp resp.replyValue).nesting ≤ 2 := by
  unfold Response.replyValue
  cases resp.reply with
  | none => exact Nat.le_succ 1
  | some reply => exact le_refl 2

theorem args_kept : escapeValue (argsValue message) = argsValue message :=
  escape_fields [("message", .string (quote message))] (by simp [escapeValue, html_escape_quote])

theorem reply_kept (reply : EchoReply) : escapeValue (replyValue reply) = replyValue reply := by
  refine escape_fields [("message", .string (quote (Json.utf8 reply.message))), ("time", .number (.ofInt reply.time))] ?_
  simp [escapeValue, html_escape_quote]

theorem marshal_request (message : List UInt8) :
    marshalRequest serviceMethod sequence (write (argsValue message)) = some (requestText serviceMethod sequence message) := by
  rw [marshalRequest, marshal_raw_kept _ (args_shallow message ▸ by decide) (args_kept message), Option.map_some, requestText]

theorem marshal_response : marshalResponse resp = some resp.text := by
  rw [marshalResponse, Response.text, Response.replyValue]
  cases resp.reply with
  | none => rfl
  | some reply => simp only [marshal_raw_kept _ (reply_shallow reply ▸ by decide) (reply_kept reply), Option.map_some, Option.elim_some]

theorem unmarshal_args : unmarshalArgs (write (argsValue message)) = .ok ⟨carried message⟩ := by
  refine unmarshal_fields argsTargets _ _ _ _ (args_shallow message ▸ by decide) ?_
  rw [List.map_singleton, List.foldl_cons, List.foldl_nil]
  exact store_string_field argsTargets _ _ "message" _ _ rfl message

theorem unmarshal_request (message : List UInt8) :
    unmarshalRequest (requestText serviceMethod sequence message) =
      .ok ⟨carried serviceMethod, sequence, write (argsValue message)⟩ := by
  refine unmarshal_fields requestTargets _ _ _ _ (request_shallow serviceMethod sequence message ▸ by decide) ?_
  simp only [List.map_cons, List.map_nil, List.foldl_cons, List.foldl_nil]
  rw [store_string_field requestTargets _ _ "service_method" _ _ rfl,
    store_uint_field requestTargets _ _ "sequence" _ _ _ _ rfl _ sequence.toNat_lt,
    store_raw_field requestTargets _ _ "args" _ rfl, UInt64.ofNat_toNat]

def Response.received (resp : Response) : SimpleJsonResponse :=
  ⟨resp.serviceMethod, resp.sequence, resp.error, write resp.replyValue⟩

@[simp] theorem received_sequence : resp.received.sequence = resp.sequence := rfl

theorem unmarshal_response : unmarshalResponse resp.text = .ok resp.received := by
  refine unmarshal_fields responseTargets _ _ _ _ ((response_shallow resp).trans (by decide)) ?_
  simp only [List.map_cons, List.map_nil, List.foldl_cons, List.foldl_nil]
  rw [store_string_field responseTargets _ _ "service_method" _ _ rfl,
    store_uint_field responseTargets _ _ "sequence" _ _ _ _ rfl _ resp.sequence.toNat_lt,
    store_string_field responseTargets _ _ "error" _ _ rfl, store_raw_field responseTargets _ _ "reply" _ rfl, UInt64.ofNat_toNat,
    carried_utf8, carried_utf8]
  rfl

end Texts

section Sent

structure Sent where
  serviceMethod : List UInt8
  sequence : UInt64
  message : List UInt8
deriving DecidableEq, Repr

def Sent.text (sent : Sent) : List UInt8 := (marshalRequest sent.serviceMethod sent.sequence (write (argsValue sent.message))).getD []

theorem Sent.text_eq (sent : Sent) : sent.text = requestText sent.serviceMethod sent.sequence sent.message := by
  rw [Sent.text, marshal_request, Option.getD_some]

def Sent.request (sent : Sent) : Request := ⟨carried sent.serviceMethod, sent.sequence, write (argsValue sent.message)⟩

def Sent.simple (sent : Sent) : SimpleJsonRequest := ⟨carried sent.serviceMethod, sent.sequence, carried sent.message⟩

end Sent

section Server

-- The text of the error that the scanner of encoding/json gives for a text it refuses.
variable (scan : List UInt8 → String)

def failureText (data : List UInt8) : Failure → String
  | .malformed => scan data
  | .mismatch text => text

def echoMethod : String := "SimpleEchoService.Echo"

def echo (now : Int) (args : EchoArgs) : Except String EchoReply := .ok ⟨args.message, now.tdiv 1000000⟩

def handle (now : Int) (data : List UInt8) : Except String Response := do
  let req ← (unmarshalRequest data).mapError fun failure => "invalid request format: " ++ failureText scan data failure
  if req.serviceMethod ≠ echoMethod then .error ("unknown service method: " ++ req.serviceMethod)
  else
    let args ← (unmarshalArgs req.args).mapError fun failure => "invalid arguments: " ++ failureText scan req.args failure
    let reply ← (echo now args).mapError fun err => "service method execution failed: " ++ err
    return { serviceMethod := req.serviceMethod, sequence := req.sequence, error := "", reply := some reply }

def marshalFailed : String := "json: error calling MarshalJSON for type json.RawMessage"

def handleRequest (now : Int) (data : List UInt8) : Except String (List UInt8) := do
  let resp ← handle scan now data
  match marshalResponse resp with
  | some response => return response
  | none => .error marshalFailed

def errorResponse (err : String) : Response := { serviceMethod := "", sequence := 0, error := err, reply := none }

def replyText (now : Int) (data : List UInt8) : List UInt8 :=
  match handleRequest scan now data with
  | .ok response => response
  | .error err => (marshalResponse (errorResponse err)).getD []

def respond (now : Int) (data : List UInt8) : Response :=
  match handle scan now data with
  | .ok resp => resp
  | .error err => errorResponse err

theorem reply_text (now : Int) (data : List UInt8) : replyText scan now data = (respond scan now data).text := by
  rw [replyText, handleRequest, respond]
  cases handle scan now data with
  | ok resp => simp only [bind, Except.bind, marshal_response, pure, Except.pure]
  | error err => simp only [bind, Except.bind, marshal_response, Option.getD_some]

def echoResponse (now : Int) (sequence : UInt64) (message : List UInt8) : Response :=
  { serviceMethod := echoMethod, sequence, error := "", reply := some ⟨carried message, now.tdiv 1000000⟩ }

theorem carried_echo_iff (serviceMethod : List UInt8) : carried serviceMethod = echoMethod ↔ serviceMethod = Json.utf8 echoMethod :=
  carried_eq_iff serviceMethod echoMethod (by decide)

theorem respond_echo (now : Int) (sequence : UInt64) (message : List UInt8) :
    respond scan now (requestText (Json.utf8 echoMethod) sequence message) = echoResponse now sequence message := by
  rw [respond, handle, unmarshal_request, carried_utf8]
  simp only [Except.mapError, bind, Except.bind, ne_eq, not_true_eq_false, if_false, unmarshal_args]
  rfl

theorem respond_unknown (now : Int) (serviceMethod : List UInt8) (sequence : UInt64) (message : List UInt8)
    (unknown : serviceMethod ≠ Json.utf8 echoMethod) :
    respond scan now (requestText serviceMethod sequence message) =
      errorResponse ("unknown service method: " ++ carried serviceMethod) := by
  have other : carried serviceMethod ≠ echoMethod := fun same => unknown ((carried_echo_iff serviceMethod).mp same)
  rw [respond, handle, unmarshal_request]
  simp only [Except.mapError, bind, Except.bind, ne_eq, other, not_false_eq_true, if_true]

end Server

end MmoServer.Rpc.Standalone
