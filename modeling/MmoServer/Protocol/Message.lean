import MmoServer.Lib.Bytes

set_option autoImplicit false

namespace MmoServer.Protocol

open Bytes

def protocolVersion : UInt8 := 1
def maxMessageSize : Nat := 10 * 1024 * 1024
def headerSize : Nat := 20
def maxPayloadSize : Nat := maxMessageSize - headerSize
def maxServiceNameSize : Nat := 32

-- Go strings are byte sequences; none of them has to be valid UTF-8 here.
structure Message where
  version : UInt8
  flags : UInt8
  serviceType : UInt16
  messageType : UInt16
  sequenceID : UInt32
  timestamp : UInt64
  payloadLength : UInt32
  sourceService : List UInt8
  destinationService : List UInt8
  correlationID : List UInt8
  sessionID : List UInt8
  payload : List UInt8
deriving DecidableEq, Repr

-- The fixed header as Encode writes it. Its seven fields take 22 bytes,
-- although headerSize, where the variable fields start, is 20.
def putHeader (m : Message) (buffer : List UInt8) : List UInt8 :=
  let buffer := writeAt buffer 0 [m.version]
  let buffer := writeAt buffer 1 [m.flags]
  let buffer := writeAt buffer 2 (putNat 2 m.serviceType.toNat)
  let buffer := writeAt buffer 4 (putNat 2 m.messageType.toNat)
  let buffer := writeAt buffer 6 (putNat 4 m.sequenceID.toNat)
  let buffer := writeAt buffer 10 (putNat 8 m.timestamp.toNat)
  writeAt buffer 18 (putNat 4 m.payloadLength.toNat)

def putField (buffer : List UInt8) (offset : Nat) (size : UInt16) (text : List UInt8) : List UInt8 × Nat :=
  let buffer := writeAt buffer offset (putNat 2 size.toNat)
  let offset := offset + 2
  (copyInto buffer offset (offset + size.toNat) text, offset + size.toNat)

def Message.encode (m : Message) : Except String (List UInt8) :=
  if m.payload.length > maxPayloadSize then
    .error ("payload size " ++ toString m.payload.length ++ " exceeds maximum size " ++ toString maxPayloadSize)
  else if m.sourceService.length > maxServiceNameSize then
    .error ("source service name too long: " ++ toString m.sourceService.length ++ " > " ++ toString maxServiceNameSize)
  else if m.destinationService.length > maxServiceNameSize then
    .error ("destination service name too long: " ++ toString m.destinationService.length ++ " > " ++
      toString maxServiceNameSize)
  else
    let sourceServiceLen := UInt16.ofNat m.sourceService.length
    let destServiceLen := UInt16.ofNat m.destinationService.length
    let correlationIDLen := UInt16.ofNat m.correlationID.length
    let sessionIDLen := UInt16.ofNat m.sessionID.length
    let totalLength := headerSize + 2 + sourceServiceLen.toNat + 2 + destServiceLen.toNat +
      2 + correlationIDLen.toNat + 2 + sessionIDLen.toNat + m.payload.length
    let buffer := putHeader m (List.replicate totalLength 0)
    let (buffer, offset) := putField buffer headerSize sourceServiceLen m.sourceService
    let (buffer, offset) := putField buffer offset destServiceLen m.destinationService
    let (buffer, offset) := putField buffer offset correlationIDLen m.correlationID
    let (buffer, offset) := putField buffer offset sessionIDLen m.sessionID
    .ok (copyInto buffer offset buffer.length m.payload)

def readField (data : Slice UInt8) (offset : Nat) (lengthText nameText : String) :
    Except Fault (List UInt8 × Nat) := do
  failWhen (data.elems.length < offset + 2) lengthText
  let size := getNat (← data.slice offset (offset + 2))
  let offset := offset + 2
  failWhen (data.elems.length < offset + size) nameText
  let text ← data.slice offset (offset + size)
  return (text, offset + size)

-- Decode with the offset it has reached. A panic is a fault apart from errors.
def decodeConsumed (data : Slice UInt8) : Except Fault (Message × Nat) := do
  failWhen (data.elems.length < headerSize) "data too short for message header"
  let version ← data.index 0
  let flags ← data.index 1
  let serviceType := UInt16.ofNat (getNat (← data.slice 2 4))
  let messageType := UInt16.ofNat (getNat (← data.slice 4 6))
  let sequenceID := UInt32.ofNat (getNat (← data.slice 6 10))
  let timestamp := UInt64.ofNat (getNat (← data.slice 10 18))
  let payloadLength := UInt32.ofNat (getNat (← data.slice 18 22))
  failWhen (version ≠ protocolVersion) ("unsupported protocol version: " ++ toString version.toNat)
  let offset := headerSize
  let (sourceService, offset) ← readField data offset
    "data too short for source service length" "data too short for source service name"
  let (destinationService, offset) ← readField data offset
    "data too short for destination service length" "data too short for destination service name"
  let (correlationID, offset) ← readField data offset
    "data too short for correlation ID length" "data too short for correlation ID"
  let (sessionID, offset) ← readField data offset
    "data too short for session ID length" "data too short for session ID"
  failWhen (data.elems.length < offset + payloadLength.toNat) "data too short for payload"
  let payload ← data.slice offset (offset + payloadLength.toNat)
  return ({ version, flags, serviceType, messageType, sequenceID, timestamp, payloadLength,
            sourceService, destinationService, correlationID, sessionID, payload },
    offset + payloadLength.toNat)

def decode (data : Slice UInt8) : Except Fault Message := Prod.fst <$> decodeConsumed data

end MmoServer.Protocol
