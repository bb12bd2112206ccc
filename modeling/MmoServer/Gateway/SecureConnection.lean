import MmoServer.Lib.Json
import MmoServer.Security.Crypto

set_option autoImplicit false

namespace MmoServer.Gateway

open Bytes Security

def messageTypeHandshake : UInt8 := 1
def messageTypeData : UInt8 := 2
def messageTypePing : UInt8 := 3
def messageTypeClose : UInt8 := 5
def messageTypeHandshakeRequest : UInt8 := 1
def messageTypeHandshakeResponse : UInt8 := 2

structure HandshakeMessage where
  type : Int := 0
  publicKey : String := ""
  sessionID : String := ""
  timestamp : Int := 0
  ttl : Int := 0
  nonce : String := ""
deriving DecidableEq, Repr

def minInt64 : Int := -2 ^ 63
def maxInt64 : Int := 2 ^ 63 - 1

def handshakeFields : List (Json.Field HandshakeMessage) :=
  [⟨"type", Json.storeInt "HandshakeMessage.type" "int" minInt64 maxInt64 fun type m => { m with type }⟩,
    ⟨"public_key", Json.storeString "HandshakeMessage.public_key" fun publicKey m => { m with publicKey }⟩,
    ⟨"session_id", Json.storeString "HandshakeMessage.session_id" fun sessionID m => { m with sessionID }⟩,
    ⟨"timestamp", Json.storeInt "HandshakeMessage.timestamp" "int64" minInt64 maxInt64 fun timestamp m => { m with timestamp }⟩,
    ⟨"ttl", Json.storeInt "HandshakeMessage.ttl" "int" minInt64 maxInt64 fun ttl m => { m with ttl }⟩,
    ⟨"nonce", Json.storeString "HandshakeMessage.nonce" fun nonce m => { m with nonce }⟩]

def omitEmpty (name text : String) : List (String × Json) := if text = "" then [] else [(name, .str text)]

def HandshakeMessage.json (m : HandshakeMessage) : Json :=
  .obj ([("type", .num m.type)] ++ omitEmpty "public_key" m.publicKey ++ omitEmpty "session_id" m.sessionID ++
    [("timestamp", .num m.timestamp), ("ttl", .num m.ttl)] ++ omitEmpty "nonce" m.nonce)

-- security.EncryptedMessage has no tags.
def encryptedFields : List (Json.Field EncryptedMessage) :=
  [⟨"Nonce", Json.storeBytes "EncryptedMessage.Nonce" fun nonce em => { em with nonce }⟩,
    ⟨"Ciphertext", Json.storeBytes "EncryptedMessage.Ciphertext" fun ciphertext em => { em with ciphertext }⟩,
    ⟨"SessionID", Json.storeString "EncryptedMessage.SessionID" fun sessionID em => { em with sessionID }⟩]

def encryptedJson (em : EncryptedMessage) : Json :=
  .obj [("Nonce", .str (Base64.encode em.nonce)), ("Ciphertext", .str (Base64.encode em.ciphertext)),
    ("SessionID", .str em.sessionID)]

def buildFrame (header body : List UInt8) : Except Fault (List UInt8) :=
  let length := body.length % 2 ^ 32
  let start := header.length + 4
  let size := (start + length) % 2 ^ 32
  if size < start then .error .outOfRange
  else .ok (copyInto (writeAt (writeAt (List.replicate size 0) 0 header) header.length (putNat 4 length)) start size body)

structure HandshakeTexts where
  short : String
  unexpected : UInt8 → String
  content : String

def readHandshakeFrame (texts : HandshakeTexts) (handshakeKind : UInt8) (message : Slice UInt8) : Except Fault (List UInt8) := do
  failWhen (message.elems.length < 6) texts.short
  let msgType ← message.index 0
  let handshakeType ← message.index 1
  let lengthBytes ← message.slice 2 6
  let stop := (6 + getNat lengthBytes) % 2 ^ 32
  failWhen (msgType ≠ messageTypeHandshake ∨ handshakeType ≠ handshakeKind) (texts.unexpected msgType)
  failWhen (message.elems.length < stop) texts.content
  message.slice 6 stop

def requestTexts : HandshakeTexts where
  short := "invalid handshake message format"
  unexpected _ := "unexpected message type during handshake"
  content := "handshake message too short"

structure SecureWebSocketConnection where
  sessionID : String
  isEncrypted : Bool := false
  handshakeDone : Bool := false
deriving DecidableEq, Repr

structure HandshakeEnv where
  keys : KeyEnv
  unixTime : Int
  nonce : List UInt8
  writeError : Option String

structure Incoming where
  message : Except String (Slice UInt8)
  pongError : Option String := none

inductive Reading where
  | again
  | ended (result : Except Fault (List UInt8))

namespace SecureWebSocketConnection

variable (prims : Primitives) (parse : List UInt8 → Except String Json)

def handshakeResponse (env : HandshakeEnv) (sc : SecureWebSocketConnection) (cm : CryptoManager) : HandshakeMessage where
  type := messageTypeHandshakeResponse.toNat
  publicKey := Base64.encode cm.getPublicKeyBytes
  sessionID := sc.sessionID
  timestamp := env.unixTime
  ttl := 60
  nonce := Base64.encode env.nonce

def handshake (env : HandshakeEnv) (incoming : Except String (Slice UInt8)) (sc : SecureWebSocketConnection) (cm : CryptoManager) :
    Except Fault (Option (List UInt8)) × SecureWebSocketConnection × CryptoManager :=
  if sc.handshakeDone = true then (.ok none, sc, cm)
  else
    match incoming with
    | .error err => (.error (.error ("read handshake request error: " ++ err)), sc, cm)
    | .ok message =>
      match readHandshakeFrame requestTexts messageTypeHandshakeRequest message with
      | .error fault => (.error fault, sc, cm)
      | .ok content =>
        match parse content >>= Json.unmarshal "gateway.HandshakeMessage" handshakeFields {} with
        | .error err => (.error (.error ("unmarshal handshake request error: " ++ err)), sc, cm)
        | .ok hsRequest =>
          if hsRequest.sessionID ≠ sc.sessionID then
            (.error (.error ("session ID mismatch: expected " ++ sc.sessionID ++ ", got " ++ hsRequest.sessionID)), sc, cm)
          else
            match cm.deriveSharedKey prims env.keys sc.sessionID (Json.utf8 hsRequest.publicKey) with
            | (.error err, cm) => (.error (.error ("derive shared key error: " ++ err)), sc, cm)
            | (.ok _, cm) =>
              let body := (sc.handshakeResponse env cm).json.marshal
              match buildFrame [messageTypeHandshake, messageTypeHandshakeResponse] body with
              | .error fault => (.error fault, sc, cm)
              | .ok response =>
                match env.writeError with
                | some err => (.error (.error ("write handshake response error: " ++ err)), sc, cm)
                | none => (.ok (some response), { sc with isEncrypted := true, handshakeDone := true }, cm)

def send (now : Int) (random : Except String (Vector UInt8 12)) (writeError : Option String) (data : List UInt8)
    (sc : SecureWebSocketConnection) (cm : CryptoManager) : Except Fault (List UInt8) :=
  if sc.isEncrypted = false then .error (.error "connection not encrypted, handshake required")
  else
    match cm.encryptWithTimestamp prims now random data sc.sessionID 60 with
    | .error err => .error (.error ("encrypt error: " ++ err))
    | .ok em =>
      match buildFrame [messageTypeData] (encryptedJson em).marshal with
      | .error fault => .error fault
      | .ok message =>
        match writeError with
        | some err => .error (.error ("write message error: " ++ err))
        | none => .ok message

def readHeader (message : Slice UInt8) : Except Fault (UInt8 × Nat) := do
  failWhen (message.elems.length < 5) "message too short"
  let msgType ← message.index 0
  let lengthBytes ← message.slice 1 5
  let stop := (5 + getNat lengthBytes) % 2 ^ 32
  failWhen (message.elems.length < stop) "message content too short"
  pure (msgType, stop)

def readEncrypted (message : Slice UInt8) (stop : Nat) : Except Fault EncryptedMessage :=
  match message.slice 5 stop with
  | .error fault => .error fault
  | .ok content =>
    match parse content >>= Json.unmarshal "security.EncryptedMessage" encryptedFields ⟨[], [], ""⟩ with
    | .error err => .error (.error ("unmarshal encrypted message error: " ++ err))
    | .ok em => .ok em

-- What Receive does with one message: it answers a ping and goes on, or it ends.
def readMessage (now : Int) (cm : CryptoManager) (incoming : Incoming) : Reading :=
  match incoming.message with
  | .error err => .ended (.error (.error ("read message error: " ++ err)))
  | .ok message =>
    match readHeader message with
    | .error fault => .ended (.error fault)
    | .ok (msgType, stop) =>
      if msgType = messageTypeData then
        match readEncrypted parse message stop with
        | .error fault => .ended (.error fault)
        | .ok em =>
          match cm.decryptWithTimestamp prims now em with
          | .error err => .ended (.error (.error ("decrypt error: " ++ err)))
          | .ok data => .ended (.ok data)
      else if msgType = messageTypePing then
        match incoming.pongError with
        | some err => .ended (.error (.error ("write pong message error: " ++ err)))
        | none => .again
      else if msgType = messageTypeClose then .ended (.error (.error "EOF"))
      else .ended (.error (.error ("unknown message type: " ++ toString msgType)))

-- Receive calls itself after each ping. The read fails after the last message.
def receive (now : Int) (sc : SecureWebSocketConnection) (cm : CryptoManager) (messages : List Incoming) :
    Except Fault (List UInt8) :=
  if sc.isEncrypted = false then .error (.error "connection not encrypted, handshake required")
  else
    match messages with
    | [] => .error (.error "read message error: EOF")
    | incoming :: rest =>
      match readMessage prims parse now cm incoming with
      | .again => sc.receive now cm rest
      | .ended result => result

end SecureWebSocketConnection

end MmoServer.Gateway
