import MmoServer.Lib.JsonCodec
import MmoServer.Protocol.Message

set_option autoImplicit false

namespace MmoServer.Protocol

open Bytes JsonText

inductive ConnectionType where
  | webSocket
  | quic
  | internal
  | other (name : String)
deriving DecidableEq, Repr

inductive FormatType where
  | binary
  | json
  | text
  | protobuf
  | other (value : Int)
deriving DecidableEq, Repr

def FormatType.ofInt : Int → FormatType
  | 0 => .binary
  | 1 => .json
  | 2 => .text
  | 3 => .protobuf
  | value => .other value

inductive ConvertError where
  | invalidFormat
  | invalidJson (failure : Failure)
  | invalidWith (text : String)
  | unsupportedFormat (detail : String)
  | json (failure : Failure)
  | marshal
  | proto (text : String)
  | message (text : String)
  | decode (fault : Fault)
deriving DecidableEq, Repr

def ConvertError.text (scanner : String) : ConvertError → String
  | .invalidFormat => "invalid message format"
  | .invalidJson .malformed => "invalid message format: " ++ scanner
  | .invalidJson (.mismatch text) => "invalid message format: " ++ text
  | .invalidWith text => "invalid message format: " ++ text
  | .unsupportedFormat detail => if detail = "" then "unsupported message format" else "unsupported message format: " ++ detail
  | .json .malformed => scanner
  | .json (.mismatch text) => text
  | .marshal => "json: error calling MarshalJSON for type json.RawMessage: " ++ scanner
  | .proto text => text
  | .message text => text
  | .decode (.error text) => text
  | .decode .outOfRange => "runtime error: slice bounds out of range"

-- A message on its way out. An empty payload may be nil, and json tells the two apart.
structure OutMessage extends Message where
  payloadNil : Bool := false
  nilEmpty : payloadNil = true → payload = [] := by simp

def Message.out (m : Message) : OutMessage := { m with payloadNil := false }

structure Any where
  typeUrl : List UInt8
  value : List UInt8
deriving DecidableEq, Repr

-- What the converter takes from its environment: the printing of numbers by
-- encoding/json, and the codec of Any messages.
structure ConverterEnv where
  floats : Number → Option Number
  marshalAny : Any → Except String (List UInt8)
  unmarshalAny : List UInt8 → Except String Any

def newMessage (now : UInt64) (serviceType messageType : UInt16) (payload : List UInt8) : Message where
  version := protocolVersion
  flags := 0
  serviceType := serviceType
  messageType := messageType
  sequenceID := 0
  timestamp := now
  payloadLength := UInt32.ofNat payload.length
  sourceService := []
  destinationService := []
  correlationID := []
  sessionID := []
  payload := payload

section Binary

def binaryToInternal (now : UInt64) : List UInt8 → Except ConvertError Message
  | flag :: s :: s' :: m :: m' :: payload =>
    .ok { newMessage now (UInt16.ofNat (getNat [s, s'])) (UInt16.ofNat (getNat [m, m'])) payload with flags := flag }
  | _ => .error .invalidFormat

def internalToBinary (m : Message) : List UInt8 :=
  let result := List.replicate (5 + m.payload.length) 0
  let result := writeAt result 0 [m.flags]
  let result := writeAt result 1 (putNat 2 m.serviceType.toNat)
  let result := writeAt result 3 (putNat 2 m.messageType.toNat)
  copyInto result 5 result.length m.payload

end Binary

section Json

structure JsonMsg where
  serviceType : UInt16 := 0
  messageType : UInt16 := 0
  flags : UInt8 := 0
  payload : List UInt8 := []
  sessionID : List UInt8 := []
deriving DecidableEq, Repr

def jsonMsgType : String :=
  "struct \x7b ServiceType uint16 \"json:\\\"service_type\\\"\"; MessageType uint16 \"json:\\\"message_type\\\"\"; " ++
    "Flags uint8 \"json:\\\"flags\\\"\"; Payload json.RawMessage \"json:\\\"payload\\\"\"; " ++
    "SessionID string \"json:\\\"session_id,omitempty\\\"\" \x7d"

def jsonMsgTargets : List (Target JsonMsg) :=
  [⟨"service_type", storeUint ".service_type" "uint16" 65536 fun value s => { s with serviceType := UInt16.ofNat value }⟩,
    ⟨"message_type", storeUint ".message_type" "uint16" 65536 fun value s => { s with messageType := UInt16.ofNat value }⟩,
    ⟨"flags", storeUint ".flags" "uint8" 256 fun value s => { s with flags := UInt8.ofNat value }⟩,
    ⟨"payload", storeRaw fun raw s => { s with payload := raw }⟩,
    ⟨"session_id", storeText ".session_id" fun text s => { s with sessionID := text }⟩]

def stringPayload (payload : List UInt8) : List UInt8 :=
  if payload.length > 0 then
    match unmarshalString payload with
    | .ok text => text
    | .error _ => payload
  else []

def jsonToInternal (now : UInt64) (wrap : Failure → ConvertError) (rawData : List UInt8) : Except ConvertError Message :=
  match unmarshalStruct jsonMsgType jsonMsgTargets {} rawData with
  | .error failure => .error (wrap failure)
  | .ok jsonMsg =>
    .ok { newMessage now jsonMsg.serviceType jsonMsg.messageType (stringPayload jsonMsg.payload) with
      flags := jsonMsg.flags
      sessionID := jsonMsg.sessionID }

def fieldName (name : String) : List StringUnit := quote (Json.utf8 name)

def jsonMessage (m : Message) (payload : Value) : Value :=
  .object ([(fieldName "service_type", .number (.ofNat m.serviceType.toNat)),
    (fieldName "message_type", .number (.ofNat m.messageType.toNat)),
    (fieldName "flags", .number (.ofNat m.flags.toNat)),
    (fieldName "payload", payload)] ++
    if m.sessionID = [] then [] else [(fieldName "session_id", .string (quote m.sessionID))])

def internalToWebSocketJson (m : Message) : List UInt8 :=
  write (jsonMessage m (.string (quote (stringPayload m.payload))))

-- A payload in braces is read and written again, where that succeeds.
def quicPayload (floats : Number → Option Number) (payload : List UInt8) : List UInt8 :=
  if payload.head? = some 123 ∧ payload.getLast? = some 125 then
    match (readText payload).bind (remarshal floats) with
    | some value => write value
    | none => payload
  else payload

def internalToQUICJson (floats : Number → Option Number) (m : OutMessage) : Except ConvertError (List UInt8) :=
  if m.payloadNil = true then .ok (write (jsonMessage m.toMessage .null))
  else
    match readText (quicPayload floats m.payload) with
    | none => .error .marshal
    | some value => .ok (write (jsonMessage m.toMessage (escapeValue value)))

end Json

section Protobuf

-- An int wraps at 64 bits, and so does its remainder at 16.
def hashString (s : List UInt8) : Int64 := s.foldl (fun h byte => 31 * h + Int64.ofNat byte.toNat) 0

def hashedType (name : List UInt8) : UInt16 := ⟨(hashString name % 65535).toBitVec.setWidth 16⟩

def protobufToInternal (env : ConverterEnv) (now : UInt64) (wrap : String → ConvertError) (rawData : List UInt8) :
    Except ConvertError Message :=
  match env.unmarshalAny rawData with
  | .error err => .error (wrap err)
  | .ok pbMsg =>
    match pbMsg.typeUrl.splitOn 47 with
    | [_, typeName] =>
      match typeName.splitOn 46 with
      | [serviceName, messageName] => .ok (newMessage now (hashedType serviceName) (hashedType messageName) pbMsg.value)
      | _ => .error .invalidFormat
    | _ => .error .invalidFormat

def internalToProtobuf (env : ConverterEnv) (typeName : String) (m : Message) : Except ConvertError (List UInt8) :=
  match env.marshalAny ⟨Json.utf8 ("type.googleapis.com/" ++ typeName), m.payload⟩ with
  | .error err => .error (.proto err)
  | .ok bytes => .ok bytes

def serviceTypeToName (serviceType : UInt16) : String :=
  if serviceType = 1 then "Gateway"
  else if serviceType = 2 then "Chat"
  else if serviceType = 3 then "Game"
  else if serviceType = 4 then "Auth"
  else "Service" ++ toString serviceType.toNat

def messageTypeToName (messageType : UInt16) : String :=
  if messageType = 1 then "Request"
  else if messageType = 2 then "Response"
  else if messageType = 3 then "Notification"
  else if messageType = 4 then "Error"
  else "Message" ++ toString messageType.toNat

end Protobuf

section Text

def parseUint16 (text : List UInt8) : Except String UInt16 :=
  let shown := "strconv.ParseUint: parsing " ++ Json.quote (ascii text) ++ ": "
  match readDigits text with
  | (first :: rest, []) =>
    let value := (first :: rest).foldl (fun total digit => total * 10 + digit.val) 0
    if value < 65536 then .ok (UInt16.ofNat value) else .error (shown ++ "value out of range")
  | _ => .error (shown ++ "invalid syntax")

def textToInternal (now : UInt64) (rawData : List UInt8) : Except ConvertError Message :=
  match rawData.splitOn 58 with
  | [service, message, encoded] =>
    match parseUint16 service with
    | .error err => .error (.invalidWith ("invalid service type: " ++ err))
    | .ok serviceType =>
      match parseUint16 message with
      | .error err => .error (.invalidWith ("invalid message type: " ++ err))
      | .ok messageType =>
        match Base64.decode encoded with
        | .error err => .error (.invalidWith ("invalid payload encoding: " ++ err))
        | .ok payload => .ok (newMessage now serviceType messageType payload)
  | _ => .error .invalidFormat

def internalToText (m : Message) : List UInt8 :=
  Json.utf8 (toString m.serviceType.toNat ++ ":" ++ toString m.messageType.toNat ++ ":" ++ Base64.encode m.payload)

end Text

section Converter

variable (env : ConverterEnv)

def convertWebSocketToInternal (now : UInt64) : FormatType → List UInt8 → Except ConvertError Message
  | .binary, rawData => binaryToInternal now rawData
  | .json, rawData => jsonToInternal now .json rawData
  | .protobuf, rawData => protobufToInternal env now .proto rawData
  | .text, _ | .other _, _ => .error (.unsupportedFormat "")

def convertQUICToInternal (now : UInt64) : FormatType → List UInt8 → Except ConvertError Message
  | .binary, rawData => binaryToInternal now rawData
  | .json, rawData => jsonToInternal now .invalidJson rawData
  | .protobuf, rawData => protobufToInternal env now .invalidWith rawData
  | .text, rawData => textToInternal now rawData
  | .other value, _ => .error (.unsupportedFormat (toString value))

def convertInternalToWebSocket : FormatType → OutMessage → Except ConvertError (List UInt8)
  | .binary, m => .ok (internalToBinary m.toMessage)
  | .json, m => .ok (internalToWebSocketJson m.toMessage)
  | .protobuf, m => internalToProtobuf env
      ("service" ++ toString m.serviceType.toNat ++ ".message" ++ toString m.messageType.toNat) m.toMessage
  | .text, _ | .other _, _ => .error (.unsupportedFormat "")

def convertInternalToQUIC : FormatType → OutMessage → Except ConvertError (List UInt8)
  | .binary, m => .ok (internalToBinary m.toMessage)
  | .json, m => internalToQUICJson env.floats m
  | .protobuf, m => internalToProtobuf env (serviceTypeToName m.serviceType ++ "." ++ messageTypeToName m.messageType) m.toMessage
  | .text, m => .ok (internalToText m.toMessage)
  | .other value, _ => .error (.unsupportedFormat (toString value))

def toInternal (now : UInt64) (connType : ConnectionType) (formatType : FormatType) (rawData : List UInt8) :
    Except ConvertError Message :=
  match connType with
  | .webSocket => convertWebSocketToInternal env now formatType rawData
  | .quic => convertQUICToInternal env now formatType rawData
  | .internal => (decode ⟨rawData, []⟩).mapError ConvertError.decode
  | .other name => .error (.unsupportedFormat name)

def fromInternal (connType : ConnectionType) (formatType : FormatType) (m : OutMessage) : Except ConvertError (List UInt8) :=
  match connType with
  | .webSocket => convertInternalToWebSocket env formatType m
  | .quic => convertInternalToQUIC env formatType m
  | .internal => m.toMessage.encode.mapError ConvertError.message
  | .other name => .error (.unsupportedFormat name)

end Converter

section Processors

variable {P : Type}

structure ProtocolConverter (P : Type) where
  processors : GoMap UInt32 P

def newProtocolConverter : ProtocolConverter P := ⟨∅⟩

def makeProcessorKey (serviceType messageType : UInt16) : UInt32 := (serviceType.toUInt32 <<< 16) ||| messageType.toUInt32

def registerMessageType (serviceType messageType : UInt16) (processor : P) (c : ProtocolConverter P) : ProtocolConverter P :=
  { c with processors := c.processors.insert (makeProcessorKey serviceType messageType) processor }

def getProcessor (serviceType messageType : UInt16) (c : ProtocolConverter P) : Option P :=
  c.processors.lookup (makeProcessorKey serviceType messageType)

end Processors

end MmoServer.Protocol
