import MmoServer.Lib.GoMap
import MmoServer.Security.Elliptic

set_option autoImplicit false

namespace MmoServer.Security

open Bytes

def nonceSize : Nat := 12

def maxPayloadSize : Nat := 16 * 1024 * 1024

-- Times are in nanoseconds where a duration is added, in seconds for Unix().
def second : Int := 1000000000

def defaultKeyRotationInterval : Int := 24 * 3600 * second

structure EncryptedMessage where
  nonce : List UInt8
  ciphertext : List UInt8
  sessionID : String
deriving DecidableEq, Repr

structure CryptoManager where
  sessionKeys : GoMap String (List UInt8)
  privateKey : PrivateKey
  keyExpiration : Int
  rotationPeriod : Int

structure KeyEnv where
  now : Int
  generated : Except String PrivateKey

def toInt64 (value : Int) : Int := value.bmod (2 ^ 64)

namespace CryptoManager

variable (prims : Primitives)

def rotateKeys (env : KeyEnv) (cm : CryptoManager) : Except String CryptoManager :=
  match env.generated with
  | .error err => .error ("failed to rotate ECDH keys: " ++ err)
  | .ok privateKey => .ok { cm with privateKey := privateKey, keyExpiration := env.now + cm.rotationPeriod }

def deriveSharedKey (env : KeyEnv) (sessionID : String) (peerPublicKeyBytes : List UInt8) (cm : CryptoManager) :
    Except String (List UInt8) × CryptoManager :=
  match if cm.keyExpiration < env.now then cm.rotateKeys env else .ok cm with
  | .error err => (.error err, cm)
  | .ok cm =>
    match unmarshal peerPublicKeyBytes with
    | none => (.error "invalid public key", cm)
    | some peer =>
      match prims.scalarMult peer (natBytes cm.privateKey.d) with
      | none => (.error "could not generate shared secret", cm)
      | some sharedSecret =>
        let key := (prims.sum256 (natBytes sharedSecret)).toList
        (.ok key, { cm with sessionKeys := cm.sessionKeys.insert sessionID key })

def getPublicKeyBytes (cm : CryptoManager) : List UInt8 := marshal cm.privateKey.publicKey

def getSessionKey (sessionID : String) (cm : CryptoManager) : Option (List UInt8) := cm.sessionKeys.lookup sessionID

def removeSessionKey (sessionID : String) (cm : CryptoManager) : CryptoManager :=
  { cm with sessionKeys := cm.sessionKeys.erase sessionID }

def cipherKey (sessionID : String) (cm : CryptoManager) : Except String (List UInt8) :=
  match cm.sessionKeys.lookup sessionID with
  | none => .error ("session key not found for session ID: " ++ sessionID)
  | some key =>
    if key.length = 16 ∨ key.length = 24 ∨ key.length = 32 then .ok key
    else .error ("failed to create AES cipher: crypto/aes: invalid key size " ++ toString key.length)

def encrypt (random : Except String (Vector UInt8 12)) (plaintext : List UInt8) (sessionID : String) (cm : CryptoManager) :
    Except String EncryptedMessage :=
  if maxPayloadSize < plaintext.length then .error "payload too large"
  else
    match cm.cipherKey sessionID with
    | .error err => .error err
    | .ok key =>
      match random with
      | .error err => .error ("failed to generate nonce: " ++ err)
      | .ok nonce => .ok ⟨nonce.toList, prims.gcmSeal key nonce.toList plaintext, sessionID⟩

def decrypt (em : EncryptedMessage) (cm : CryptoManager) : Except String (List UInt8) :=
  match cm.cipherKey em.sessionID with
  | .error err => .error err
  | .ok key =>
    if em.nonce.length ≠ nonceSize then .error "invalid nonce size"
    else
      match prims.gcmOpen key em.nonce em.ciphertext with
      | none => .error "failed to decrypt: cipher: message authentication failed"
      | some plaintext => .ok plaintext

def timestamped (now ttlSeconds : Int) (plaintext : List UInt8) : List UInt8 :=
  putNat 8 (now % 2 ^ 64).toNat ++ putNat 4 (ttlSeconds % 2 ^ 32).toNat ++ plaintext

def encryptWithTimestamp (now : Int) (random : Except String (Vector UInt8 12)) (plaintext : List UInt8) (sessionID : String)
    (ttlSeconds : Int) (cm : CryptoManager) : Except String EncryptedMessage :=
  cm.encrypt prims random (timestamped now ttlSeconds plaintext) sessionID

def checkTimestamp (now : Int) (plaintext : List UInt8) : Except String (List UInt8) :=
  if plaintext.length < 12 then .error "invalid timestamped message format"
  else
    let timestamp := toInt64 (getNat (plaintext.take 8))
    let deadline := toInt64 (timestamp + getNat ((plaintext.take 12).drop 8))
    if deadline < now then .error "message expired"
    else if now < timestamp ∨ deadline < now then .error "invalid message timestamp"
    else .ok (plaintext.drop 12)

def decryptWithTimestamp (now : Int) (em : EncryptedMessage) (cm : CryptoManager) : Except String (List UInt8) :=
  match cm.decrypt prims em with
  | .error err => .error err
  | .ok plaintext => checkTimestamp now plaintext

end CryptoManager

end MmoServer.Security
