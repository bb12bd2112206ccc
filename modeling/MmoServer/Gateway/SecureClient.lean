import MmoServer.Gateway.SecureFraming

set_option autoImplicit false

namespace MmoServer.Gateway

open Bytes Security

namespace Client

structure HandshakeMessage where
  type : Int := 0
  publicKey : List UInt8 := []
  sessionID : String := ""
  version : String := ""
deriving DecidableEq, Repr

def handshakeFields : List (Json.Field HandshakeMessage) :=
  [⟨"type", Json.storeInt "HandshakeMessage.type" "uint8" 0 255 fun type m => { m with type }⟩,
    ⟨"public_key", Json.storeBytes "HandshakeMessage.public_key" fun publicKey m => { m with publicKey }⟩,
    ⟨"session_id", Json.storeString "HandshakeMessage.session_id" fun sessionID m => { m with sessionID }⟩,
    ⟨"version", Json.storeString "HandshakeMessage.version" fun version m => { m with version }⟩]

def HandshakeMessage.json (m : HandshakeMessage) : Json :=
  .obj [("type", .num m.type), ("public_key", .str (Base64.encode m.publicKey)), ("session_id", .str m.sessionID),
    ("version", .str m.version)]

structure SecureClient where
  privateKey : PrivateKey
  publicKey : List UInt8
  sharedKey : List UInt8 := []
  sessionID : String
  isSecure : Bool := false

def newSecureClient (privateKey : PrivateKey) (unixNano : Int64) : SecureClient where
  privateKey := privateKey
  publicKey := marshal privateKey.publicKey
  sessionID := "client-" ++ toString unixNano.toInt

def responseTexts : HandshakeTexts where
  short := "handshake response too short"
  unexpected msgType := "unexpected message type in handshake response: " ++ toString msgType
  content := "handshake response content too short"

namespace SecureClient

variable (prims : Primitives) (parse : List UInt8 → Except String Json)

def hsRequest (client : SecureClient) : HandshakeMessage where
  type := messageTypeHandshakeRequest.toNat
  publicKey := client.publicKey
  sessionID := client.sessionID
  version := "1.0"

def request (client : SecureClient) : Except Fault (List UInt8) :=
  buildFrame [messageTypeHandshake, messageTypeHandshakeRequest] client.hsRequest.json.marshal

def finish (incoming : Except String (Slice UInt8)) (client : SecureClient) : Except Fault SecureClient :=
  match incoming with
  | .error err => .error (.error ("read handshake response error: " ++ err))
  | .ok response =>
    match readHandshakeFrame responseTexts messageTypeHandshakeResponse response with
    | .error fault => .error fault
    | .ok content =>
      match parse content >>= Json.unmarshal "main.HandshakeMessage" handshakeFields {} with
      | .error err => .error (.error ("unmarshal handshake response error: " ++ err))
      | .ok hsResponse =>
        if hsResponse.sessionID ≠ client.sessionID then
          .error (.error ("session ID mismatch in handshake response: expected " ++ client.sessionID ++ ", got " ++
            hsResponse.sessionID))
        else
          match unmarshal hsResponse.publicKey with
          | none => .error (.error "invalid server public key")
          | some server =>
            match prims.scalarMult server (natBytes client.privateKey.d) with
            | none => .error (.error "failed to compute shared secret")
            | some sharedSecret =>
              .ok { client with sharedKey := (prims.sum256 (natBytes sharedSecret)).toList, isSecure := true }

end SecureClient

end Client

structure Exchange where
  served : Except Fault (Option (List UInt8))
  connection : SecureWebSocketConnection
  manager : CryptoManager
  client : Except Fault Client.SecureClient

-- The client's Handshake against a new connection of the server. The server closes
-- the WebSocket when its own Handshake fails.
def exchange (prims : Primitives) (parse : List UInt8 → Except String Json) (env : HandshakeEnv) (client : Client.SecureClient)
    (sessionID : String) (cm : CryptoManager) : Exchange :=
  match client.request with
  | .error fault => ⟨.error (.error "read handshake request error: EOF"), ⟨sessionID, false, false⟩, cm, .error fault⟩
  | .ok request =>
    match SecureWebSocketConnection.handshake prims parse env (.ok ⟨request, []⟩) ⟨sessionID, false, false⟩ cm with
    | (.ok (some response), sc, cm) => ⟨.ok (some response), sc, cm, client.finish prims parse (.ok ⟨response, []⟩)⟩
    | (answer, sc, cm) => ⟨answer, sc, cm, client.finish prims parse (.error "unexpected EOF")⟩

def Exchange.Agreed (outcome : Exchange) : Prop :=
  ∃ response client key, outcome.served = .ok response ∧ outcome.client = .ok client ∧
    outcome.manager.getSessionKey outcome.connection.sessionID = some key ∧ client.sharedKey = key ∧ key.length = 32

end MmoServer.Gateway
