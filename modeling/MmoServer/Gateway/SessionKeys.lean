import MmoServer.Gateway.SecureFraming

set_option autoImplicit false

namespace MmoServer.Gateway

open Bytes Security SecureWebSocketConnection

def receivedMessage (parse : List UInt8 → Except String Json) : List Incoming → Option EncryptedMessage
  | [] => none
  | incoming :: rest =>
    match incoming.message with
    | .error _ => none
    | .ok message =>
      match readHeader message with
      | .error _ => none
      | .ok (msgType, stop) =>
        if msgType = messageTypeData then (readEncrypted parse message stop).toOption
        else if msgType = messageTypePing then receivedMessage parse rest
        else none

def OpenedFor (prims : Primitives) (now : Int) (cm : CryptoManager) (sessionID : String) (em : EncryptedMessage) (data : List UInt8) :
    Prop :=
  ∃ key plaintext, cm.sessionKeys.lookup sessionID = some key ∧ prims.gcmOpen key em.nonce em.ciphertext = some plaintext ∧
    CryptoManager.checkTimestamp now plaintext = .ok data

section Decryption

variable (prims : Primitives) (parse : List UInt8 → Except String Json) (now : Int) (cm : CryptoManager)

theorem cipher_key_registered (sessionID : String) (key : List UInt8) (ok : cm.cipherKey sessionID = .ok key) :
    cm.sessionKeys.lookup sessionID = some key := by
  simp only [CryptoManager.cipherKey] at ok
  split at ok
  · cases ok
  · rename_i registered found
    split at ok <;> cases ok
    exact found

theorem decrypt_opened (em : EncryptedMessage) (data : List UInt8) (ok : cm.decryptWithTimestamp prims now em = .ok data) :
    OpenedFor prims now cm em.sessionID em data := by
  simp only [CryptoManager.decryptWithTimestamp] at ok
  split at ok
  · cases ok
  · rename_i plaintext decrypted
    simp only [CryptoManager.decrypt] at decrypted
    split at decrypted
    · cases decrypted
    · rename_i key registered
      split at decrypted
      · cases decrypted
      · split at decrypted
        · cases decrypted
        · rename_i opened
          cases decrypted
          exact ⟨key, plaintext, cipher_key_registered cm em.sessionID key registered, opened, ok⟩

theorem receive_opened (sc : SecureWebSocketConnection) (messages : List Incoming) (data : List UInt8)
    (received : sc.receive prims parse now cm messages = .ok data) :
    ∃ em, receivedMessage parse messages = some em ∧ OpenedFor prims now cm em.sessionID em data := by
  induction messages with
  | nil =>
    rw [receive] at received
    split at received <;> cases received
  | cons incoming rest ih =>
    rw [receive] at received
    split at received
    · cases received
    · cases reading : readMessage prims parse now cm incoming with
      | again =>
        rw [reading] at received
        obtain ⟨em, found, opened⟩ := ih received
        refine ⟨em, ?_, opened⟩
        unfold readMessage at reading
        repeat' split at reading
        all_goals cases reading
        rename_i read _ _ _ header noData isPing _ _
        simp only [receivedMessage, read, header, if_neg noData, if_pos isPing]
        exact found
      | ended result =>
        rw [reading] at received
        dsimp only at received
        subst received
        unfold readMessage at reading
        repeat' split at reading
        all_goals cases reading
        rename_i read _ _ _ header isData _ em parsed _ decrypted
        refine ⟨em, ?_, decrypt_opened prims now cm em _ decrypted⟩
        simp [receivedMessage, read, header, isData, parsed, Except.toOption]

theorem receive_data (sc : SecureWebSocketConnection) (incoming : Incoming) (rest : List Incoming) (message : Slice UInt8)
    (stop : Nat) (em : EncryptedMessage) (data : List UInt8) (encrypted : sc.isEncrypted = true)
    (arrived : incoming.message = .ok message)
    (header : readHeader message = .ok (messageTypeData, stop))
    (parsed : readEncrypted parse message stop = .ok em)
    (decrypted : cm.decryptWithTimestamp prims now em = .ok data) :
    sc.receive prims parse now cm (incoming :: rest) = .ok data ∧ receivedMessage parse (incoming :: rest) = some em := by
  constructor
  · rw [receive, readMessage]
    simp [encrypted, arrived, header, parsed, decrypted]
  · simp [receivedMessage, arrived, header, parsed, Except.toOption]

end Decryption

theorem data_under_own_key_iff (prims : Primitives) (bound : prims.KeyBound) (parse : List UInt8 → Except String Json) (now : Int)
    (cm : CryptoManager) (sc : SecureWebSocketConnection) (messages : List Incoming) (data : List UInt8)
    (received : sc.receive prims parse now cm messages = .ok data) :
    ∃ em, receivedMessage parse messages = some em ∧
      (OpenedFor prims now cm sc.sessionID em data ↔ cm.getSessionKey em.sessionID = cm.getSessionKey sc.sessionID) := by
  obtain ⟨em, read, key, plaintext, registered, opened, checked⟩ := receive_opened prims parse now cm sc messages data received
  refine ⟨em, read, ?_, fun same => ?_⟩
  · rintro ⟨own, text, ownKey, also, _⟩
    rw [CryptoManager.getSessionKey, CryptoManager.getSessionKey, registered, ownKey, bound key own _ _ _ _ opened also]
  · refine ⟨key, plaintext, ?_, opened, checked⟩
    rw [← registered]
    exact same.symm

theorem plain_key_bound : plainPrims.KeyBound := by
  intro key other nonce ciphertext plaintext otherText opened also
  simp only [plainPrims] at opened also
  split_ifs at opened also with first second
  exact first.2.symm.trans second.2

def aliceKey : List UInt8 := List.replicate 32 1

def twoSessions : CryptoManager :=
  { plainManager with sessionKeys := ((∅ : GoMap String (List UInt8)).insert "alice" aliceKey).insert "bob" (List.replicate 32 2) }

def sealedForAlice : EncryptedMessage :=
  ⟨List.replicate 12 0, plainPrims.gcmSeal aliceKey (List.replicate 12 0) (CryptoManager.timestamped 100 60 [104, 105]), "alice"⟩

def readsSealed (content : List UInt8) : Except String Json :=
  if content = (encryptedJson sealedForAlice).marshal then .ok (encryptedJson sealedForAlice) else .error "invalid character"

def sealedFrame : List UInt8 :=
  match send plainPrims 100 (.ok (Vector.replicate 12 0)) none [104, 105] ⟨"alice", true, true⟩ twoSessions with
  | .ok frame => frame
  | .error _ => []

theorem sealed_content_fits : 5 + (encryptedJson sealedForAlice).marshal.length < 2 ^ 32 := by
  decide +kernel

theorem sealed_encrypted :
    twoSessions.encryptWithTimestamp plainPrims 100 (.ok (Vector.replicate 12 0)) [104, 105] "alice" 60 = .ok sealedForAlice := by
  decide +kernel

theorem sealed_sent :
    send plainPrims 100 (.ok (Vector.replicate 12 0)) none [104, 105] ⟨"alice", true, true⟩ twoSessions =
      .ok (dataFrame sealedForAlice) :=
  send_frame plainPrims 100 _ [104, 105] _ rfl twoSessions sealedForAlice sealed_encrypted sealed_content_fits

theorem sealed_frame_eq : sealedFrame = dataFrame sealedForAlice := by
  delta sealedFrame
  rw [sealed_sent]

theorem sealed_frame_received (sc : SecureWebSocketConnection) (encrypted : sc.isEncrypted = true) :
    sc.receive plainPrims readsSealed 110 twoSessions [⟨.ok ⟨sealedFrame, []⟩, none⟩] = .ok [104, 105] ∧
      receivedMessage readsSealed [⟨.ok ⟨sealedFrame, []⟩, none⟩] = some sealedForAlice := by
  obtain ⟨header, parsed⟩ := data_frame_read readsSealed sealedForAlice sealed_content_fits (if_pos rfl)
  rw [sealed_frame_eq]
  exact receive_data plainPrims readsSealed 110 twoSessions sc _ [] _ _ sealedForAlice _ encrypted rfl header parsed
    (by decide +kernel)

theorem own_message_opened :
    receive plainPrims readsSealed 110 ⟨"alice", true, true⟩ twoSessions [⟨.ok ⟨sealedFrame, []⟩, none⟩] =
        .ok [104, 105] ∧
      ∃ em, receivedMessage readsSealed [⟨.ok ⟨sealedFrame, []⟩, none⟩] = some em ∧
        (OpenedFor plainPrims 110 twoSessions "alice" em [104, 105] ↔
          twoSessions.getSessionKey em.sessionID = twoSessions.getSessionKey "alice") := by
  have received := (sealed_frame_received ⟨"alice", true, true⟩ rfl).1
  exact ⟨received, data_under_own_key_iff plainPrims plain_key_bound readsSealed 110 twoSessions ⟨"alice", true, true⟩ _ _ received⟩

theorem foreign_message_accepted :
    receive plainPrims readsSealed 110 ⟨"bob", true, true⟩ twoSessions [⟨.ok ⟨sealedFrame, []⟩, none⟩] =
        .ok [104, 105] ∧
      receivedMessage readsSealed [⟨.ok ⟨sealedFrame, []⟩, none⟩] = some sealedForAlice ∧
      ¬ OpenedFor plainPrims 110 twoSessions "bob" sealedForAlice [104, 105] := by
  obtain ⟨received, message⟩ := sealed_frame_received ⟨"bob", true, true⟩ rfl
  refine ⟨received, message, ?_⟩
  rintro ⟨key, plaintext, registered, opened, _⟩
  have bob : twoSessions.sessionKeys.lookup "bob" = some (List.replicate 32 2) := by decide +kernel
  rw [bob, Option.some_inj] at registered
  rw [← registered] at opened
  have refused : plainPrims.gcmOpen (List.replicate 32 2) sealedForAlice.nonce sealedForAlice.ciphertext = none := by decide +kernel
  rw [refused] at opened
  cases opened

end MmoServer.Gateway
