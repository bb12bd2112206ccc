import MmoServer.Gateway.SecureConnection

set_option autoImplicit false

namespace MmoServer.Gateway

open Bytes Security SecureWebSocketConnection

def Wraps (start : Nat) (lengthBytes : List UInt8) : Prop := 2 ^ 32 ≤ start + getNat lengthBytes

instance decidableWraps (start : Nat) (lengthBytes : List UInt8) : Decidable (Wraps start lengthBytes) :=
  inferInstanceAs (Decidable (_ ≤ _))

def HandshakeOverflows (message : List UInt8) : Prop :=
  6 ≤ message.length ∧ message[0]? = some messageTypeHandshake ∧ message[1]? = some messageTypeHandshakeRequest ∧
    Wraps 6 ((message.take 6).drop 2)

def DataOverflows (message : List UInt8) : Prop :=
  5 ≤ message.length ∧ message[0]? = some messageTypeData ∧ Wraps 5 ((message.take 5).drop 1)

section Slices

variable (message : Slice UInt8)

theorem wrapped_stop (start : Nat) (small : start < 2 ^ 32) (lengthBytes : List UInt8) (four : lengthBytes.length = 4) :
    (start + getNat lengthBytes) % 2 ^ 32 < start ↔ Wraps start lengthBytes := by
  have bound := get_nat_lt lengthBytes
  rw [four] at bound
  rw [Wraps]
  omega

theorem slice_fault (low high : Nat) (within : high ≤ message.elems.length) :
    message.slice low high = .error .outOfRange ↔ high < low := by
  by_cases ordered : low ≤ high
  · rw [message.slice_within low high ordered within]
    simp only [reduceCtorEq, false_iff]
    omega
  · simp only [Slice.slice, ordered, false_and, if_false, true_iff]
    omega

theorem index_within (i : Nat) (within : i < message.elems.length) : ∃ byte, message.elems[i]? = some byte ∧ message.index i = .ok byte :=
  ⟨message.elems[i], List.getElem?_eq_getElem within, (message.index_ok i _).mpr (List.getElem?_eq_getElem within)⟩

end Slices

theorem read_handshake_frame_long (texts : HandshakeTexts) (kind : UInt8) (message : Slice UInt8) (long : 6 ≤ message.elems.length) :
    ∃ first second, message.elems[0]? = some first ∧ message.elems[1]? = some second ∧
      readHandshakeFrame texts kind message =
        if first ≠ messageTypeHandshake ∨ second ≠ kind then .error (.error (texts.unexpected first))
        else if message.elems.length < (6 + getNat ((message.elems.take 6).drop 2)) % 2 ^ 32 then .error (.error texts.content)
        else message.slice 6 ((6 + getNat ((message.elems.take 6).drop 2)) % 2 ^ 32) := by
  obtain ⟨first, here, read⟩ := index_within message 0 (by omega)
  obtain ⟨second, there, also⟩ := index_within message 1 (by omega)
  refine ⟨first, second, here, there, ?_⟩
  have enough : ¬ message.elems.length < 6 := by omega
  simp only [readHandshakeFrame, failWhen, if_neg enough, read, also, message.slice_within 2 6 (by omega) long, bind, Except.bind]
  split_ifs <;> rfl

theorem read_header_long (message : Slice UInt8) (long : 5 ≤ message.elems.length) :
    ∃ first, message.elems[0]? = some first ∧
      readHeader message =
        if message.elems.length < (5 + getNat ((message.elems.take 5).drop 1)) % 2 ^ 32 then
          .error (.error "message content too short")
        else .ok (first, (5 + getNat ((message.elems.take 5).drop 1)) % 2 ^ 32) := by
  obtain ⟨first, here, read⟩ := index_within message 0 (by omega)
  refine ⟨first, here, ?_⟩
  have enough : ¬ message.elems.length < 5 := by omega
  simp only [readHeader, failWhen, if_neg enough, read, message.slice_within 1 5 (by omega) long, bind,
    Except.bind]
  split_ifs <;> rfl

section Built

theorem build_frame_fits (header body : List UInt8) (fits : header.length + 4 + body.length < 2 ^ 32) :
    buildFrame header body = .ok (header ++ putNat 4 body.length ++ body) := by
  have length : body.length % 2 ^ 32 = body.length := Nat.mod_eq_of_lt (by omega)
  have size : (header.length + 4 + body.length) % 2 ^ 32 = header.length + 4 + body.length := Nat.mod_eq_of_lt fits
  have enough : ¬ header.length + 4 + body.length < header.length + 4 := by omega
  have first : writeAt (List.replicate (header.length + 4 + body.length) 0) 0 header = header ++ List.replicate (4 + body.length) 0 := by
    have written := write_at_next [] (List.replicate (header.length + 4 + body.length) 0) header 0 rfl
    rw [List.nil_append, List.nil_append, List.drop_replicate] at written
    rw [written]
    congr 2
    omega
  have second : writeAt (header ++ List.replicate (4 + body.length) 0) header.length (putNat 4 body.length) =
      header ++ putNat 4 body.length ++ List.replicate body.length 0 := by
    rw [write_at_next header _ _ header.length rfl, put_nat_length, List.drop_replicate, Nat.add_sub_cancel_left]
  have third := copy_into_rest (header ++ putNat 4 body.length) (List.replicate body.length 0) body (header.length + 4) (by simp) (by simp)
  have total : (header ++ putNat 4 body.length ++ List.replicate body.length 0).length = header.length + 4 + body.length := by
    simp [Nat.add_assoc]
  rw [total] at third
  simp only [buildFrame, length, size, if_neg enough, first, second, third]

theorem read_built_header (kind : UInt8) (body : List UInt8) (fits : 5 + body.length < 2 ^ 32) :
    readHeader ⟨[kind] ++ putNat 4 body.length ++ body, []⟩ = .ok (kind, 5 + body.length) := by
  obtain ⟨first, here, header⟩ := read_header_long ⟨[kind] ++ putNat 4 body.length ++ body, []⟩ (by simp)
  have length : (([kind] ++ putNat 4 body.length ++ body).take 5).drop 1 = putNat 4 body.length := by
    rw [List.take_left' (by simp)]
    rfl
  have stop : (5 + body.length % 256 ^ 4) % 2 ^ 32 = 5 + body.length := by omega
  have whole : ([kind] ++ putNat 4 body.length ++ body).length = 5 + body.length := by simp; omega
  cases here
  rw [header, length, get_put_nat, stop, whole, if_neg (by omega)]

theorem read_built_encrypted (parse : List UInt8 → Except String Json) (kind : UInt8) (body : List UInt8) (em : EncryptedMessage)
    (decodes : (parse body >>= Json.unmarshal "security.EncryptedMessage" encryptedFields ⟨[], [], ""⟩) = .ok em) :
    readEncrypted parse ⟨[kind] ++ putNat 4 body.length ++ body, []⟩ (5 + body.length) = .ok em := by
  have whole : ([kind] ++ putNat 4 body.length ++ body).length = 5 + body.length := by simp; omega
  rw [readEncrypted, Slice.slice_within _ _ _ (by omega) whole.ge, List.take_of_length_le whole.le,
    List.drop_left' (by simp)]
  simp only [decodes]

theorem encrypted_read (em : EncryptedMessage) :
    Json.unmarshal "security.EncryptedMessage" encryptedFields ⟨[], [], ""⟩ (encryptedJson em) = .ok em := by
  have found : Json.sameName "Nonce" "Nonce" = true ∧ Json.sameName "Ciphertext" "Ciphertext" = true ∧
      Json.sameName "SessionID" "SessionID" = true := by
    decide +kernel
  have others : Json.sameName "Nonce" "Ciphertext" = false ∧ Json.sameName "Nonce" "SessionID" = false ∧
      Json.sameName "Ciphertext" "SessionID" = false := by
    decide +kernel
  have decoded (bytes : List UInt8) : Base64.decode (Json.utf8 (Base64.encode bytes)) = .ok bytes := by
    rw [Json.utf8_base64, Base64.decode_encode]
  simp only [encryptedJson, Json.unmarshal, List.foldl_cons, List.foldl_nil, Json.storeKey]
  simp [encryptedFields, found, others, Json.storeBytes, Json.storeString, decoded, Except.map]

def dataFrame (em : EncryptedMessage) : List UInt8 :=
  [messageTypeData] ++ putNat 4 (encryptedJson em).marshal.length ++ (encryptedJson em).marshal

theorem send_frame (prims : Primitives) (now : Int) (random : Except String (Vector UInt8 12)) (data : List UInt8)
    (sc : SecureWebSocketConnection) (ready : sc.isEncrypted = true) (cm : CryptoManager) (em : EncryptedMessage)
    (encrypted : cm.encryptWithTimestamp prims now random data sc.sessionID 60 = .ok em)
    (fits : 5 + (encryptedJson em).marshal.length < 2 ^ 32) :
    sc.send prims now random none data cm = .ok (dataFrame em) := by
  have built := build_frame_fits [messageTypeData] (encryptedJson em).marshal (by rw [List.length_singleton]; omega)
  simp only [send, ready, Bool.true_eq_false, if_false, encrypted, built, dataFrame]

theorem send_written (prims : Primitives) (now : Int) (random : Except String (Vector UInt8 12)) (writeError : Option String)
    (data : List UInt8) (sc : SecureWebSocketConnection) (cm : CryptoManager) (frame : List UInt8)
    (sent : sc.send prims now random writeError data cm = .ok frame) : sc.send prims now random none data cm = .ok frame := by
  cases writeError with
  | none => exact sent
  | some err =>
    unfold send at sent
    repeat' split at sent
    all_goals cases sent
    rename_i absent _
    cases absent

theorem data_frame_read (parse : List UInt8 → Except String Json) (em : EncryptedMessage)
    (fits : 5 + (encryptedJson em).marshal.length < 2 ^ 32) (decodes : parse (encryptedJson em).marshal = .ok (encryptedJson em)) :
    readHeader ⟨dataFrame em, []⟩ = .ok (messageTypeData, 5 + (encryptedJson em).marshal.length) ∧
      readEncrypted parse ⟨dataFrame em, []⟩ (5 + (encryptedJson em).marshal.length) = .ok em := by
  refine ⟨read_built_header _ _ fits, read_built_encrypted parse _ _ _ ?_⟩
  rw [decodes]
  exact encrypted_read em

end Built

theorem handshake_frame_fault (texts : HandshakeTexts) (kind : UInt8) (message : Slice UInt8) :
    readHandshakeFrame texts kind message = .error .outOfRange ↔
      6 ≤ message.elems.length ∧ message.elems[0]? = some messageTypeHandshake ∧ message.elems[1]? = some kind ∧
        Wraps 6 ((message.elems.take 6).drop 2) := by
  by_cases long : 6 ≤ message.elems.length
  · obtain ⟨first, second, here, there, frame⟩ := read_handshake_frame_long texts kind message long
    have four : ((message.elems.take 6).drop 2).length = 4 := by
      rw [List.length_drop, List.length_take]
      omega
    have wraps := wrapped_stop 6 (by norm_num) _ four
    rw [frame, here, there, Option.some_inj, Option.some_inj]
    split_ifs with types content
    · simp only [Except.error.injEq, reduceCtorEq, false_iff]
      tauto
    · have ordered : ¬ Wraps 6 ((message.elems.take 6).drop 2) := by
        rw [← wraps]
        omega
      simp [ordered]
    · rw [slice_fault message 6 _ (by omega), wraps]
      tauto
  · have short : message.elems.length < 6 := by omega
    simp [readHandshakeFrame, failWhen, short, bind, Except.bind, long]

def IsPing (message : List UInt8) : Prop :=
  5 ≤ message.length ∧ message[0]? = some messageTypePing ∧ (5 + getNat ((message.take 5).drop 1)) % 2 ^ 32 ≤ message.length

def ReadsOverflow : List Incoming → Prop
  | [] => False
  | incoming :: rest =>
    ∃ message, incoming.message = .ok message ∧
      (DataOverflows message.elems ∨ IsPing message.elems ∧ incoming.pongError = none ∧ ReadsOverflow rest)

theorem data_wraps (message : List UInt8) (long : 5 ≤ message.length) :
    (5 + getNat ((message.take 5).drop 1)) % 2 ^ 32 < 5 ↔ Wraps 5 ((message.take 5).drop 1) := by
  apply wrapped_stop 5 (by norm_num)
  rw [List.length_drop, List.length_take]
  omega

theorem read_header_cases (message : Slice UInt8) :
    (∃ text, readHeader message = .error (.error text) ∧ ¬ DataOverflows message.elems ∧
        ¬ IsPing message.elems) ∨
      ∃ first, message.elems[0]? = some first ∧ 5 ≤ message.elems.length ∧
        (5 + getNat ((message.elems.take 5).drop 1)) % 2 ^ 32 ≤ message.elems.length ∧
        readHeader message = .ok (first, (5 + getNat ((message.elems.take 5).drop 1)) % 2 ^ 32) := by
  by_cases long : 5 ≤ message.elems.length
  · obtain ⟨first, here, header⟩ := read_header_long message long
    rw [header]
    split_ifs with content
    · refine .inl ⟨_, rfl, fun data => ?_, fun ping => ?_⟩
      · have wrapped := (data_wraps message.elems long).mpr data.2.2
        omega
      · have complete := ping.2.2
        omega
    · exact .inr ⟨first, here, long, by omega, rfl⟩
  · have short : message.elems.length < 5 := by omega
    refine .inl ⟨"message too short", ?_, fun data => long data.1, fun ping => long ping.1⟩
    simp [readHeader, failWhen, short, bind, Except.bind]

theorem read_encrypted_fault (parse : List UInt8 → Except String Json) (message : Slice UInt8) (stop : Nat)
    (within : stop ≤ message.elems.length) :
    readEncrypted parse message stop = .error .outOfRange ↔ stop < 5 := by
  rw [← slice_fault message 5 stop within, readEncrypted]
  split
  · rename_i fault sliced
    rw [sliced, Except.error.injEq, Except.error.injEq]
  · rename_i content sliced
    rw [sliced]
    split <;> simp

theorem receive_fault (prims : Primitives) (parse : List UInt8 → Except String Json) (now : Int) (sc : SecureWebSocketConnection)
    (cm : CryptoManager) (encrypted : sc.isEncrypted = true) (messages : List Incoming) :
    sc.receive prims parse now cm messages = .error .outOfRange ↔ ReadsOverflow messages := by
  have on : ¬ sc.isEncrypted = false := by simp [encrypted]
  induction messages with
  | nil => simp [receive, on, ReadsOverflow]
  | cons incoming rest ih =>
    rw [receive, if_neg on, readMessage, ReadsOverflow]
    cases read : incoming.message with
    | error err => simp
    | ok message =>
      simp only [Except.ok.injEq, exists_eq_left']
      rcases read_header_cases message with ⟨text, header, noData, noPing⟩ | ⟨first, here, long, within, header⟩
      · simp [header, noData, noPing]
      · simp only [header, DataOverflows, IsPing, here, Option.some_inj, ← data_wraps message.elems long]
        generalize (5 + getNat ((message.elems.take 5).drop 1)) % 2 ^ 32 = stop at within
        by_cases data : first = messageTypeData
        · have fault := read_encrypted_fault parse message stop within
          have noPing : messageTypeData ≠ messageTypePing := by decide
          simp only [data, noPing, long, within, true_and, false_and, and_false, or_false, if_true, ← fault]
          cases readEncrypted parse message stop with
          | error other => simp
          | ok em =>
            simp only [reduceCtorEq, iff_false]
            cases cm.decryptWithTimestamp prims now em <;> simp
        · by_cases ping : first = messageTypePing
          · have noData : messageTypePing ≠ messageTypeData := by decide
            simp only [ping, noData, long, within, true_and, false_and, and_false, false_or, if_true, if_false, ← ih]
            cases incoming.pongError <;> simp
          · simp only [data, ping, false_and, and_false, or_self, if_false, iff_false]
            split_ifs <;> simp

theorem framing_within_message_iff (prims : Primitives) (parse : List UInt8 → Except String Json) :
    (∀ message : Slice UInt8, readHandshakeFrame requestTexts messageTypeHandshakeRequest message ≠ .error .outOfRange ↔
        ¬ HandshakeOverflows message.elems) ∧
      (∀ (env : HandshakeEnv) (message : Slice UInt8) (sc : SecureWebSocketConnection) (cm : CryptoManager),
        sc.handshakeDone = false → HandshakeOverflows message.elems →
          (sc.handshake prims parse env (.ok message) cm).1 = .error .outOfRange) ∧
      ∀ (now : Int) (sc : SecureWebSocketConnection) (cm : CryptoManager) (messages : List Incoming),
        sc.receive prims parse now cm messages ≠ .error .outOfRange ↔ sc.isEncrypted = false ∨ ¬ ReadsOverflow messages := by
  refine ⟨fun message => not_congr (handshake_frame_fault _ _ message), fun env message sc cm fresh overflows => ?_, ?_⟩
  · have fault := (handshake_frame_fault requestTexts messageTypeHandshakeRequest message).mpr overflows
    simp [handshake, fresh, fault]
  · intro now sc cm messages
    by_cases encrypted : sc.isEncrypted = true
    · simp [receive_fault prims parse now sc cm encrypted messages, encrypted]
    · have off : sc.isEncrypted = false := by simpa using encrypted
      have refused : sc.receive prims parse now cm messages = .error (.error "connection not encrypted, handshake required") := by
        unfold receive
        rw [if_pos off]
      simp [refused, off]

def baseKey : PrivateKey where
  d := 1
  publicKey := ⟨⟨0x6b17d1f2e12c4247f8bce6e563a440f277037d812deb33a0f4a13945d898c296,
    0x4fe342e2fe1a7f9b8ee7eb4a7c0f9e162bce33576b315ececbb6406837bf51f5⟩, by decide +kernel⟩

def plainPrims : Primitives where
  scalarMult peer _ := some peer.point.x
  sum256 _ := Vector.replicate 32 7
  gcmSeal key _ plaintext := key ++ plaintext
  gcmOpen key _ ciphertext := if key.length = 32 ∧ ciphertext.take 32 = key then some (ciphertext.drop 32) else none

def plainManager : CryptoManager := ⟨∅, baseKey, 0, defaultKeyRotationInterval⟩

def plainHandshakeEnv : HandshakeEnv := ⟨⟨0, .error "EOF"⟩, 0, List.replicate 12 0, none⟩

def noJson : List UInt8 → Except String Json := fun _ => .error "unexpected end of JSON input"

theorem largest_length_refused :
    ¬ HandshakeOverflows [1, 1, 255, 255, 255, 249] ∧
      readHandshakeFrame requestTexts messageTypeHandshakeRequest ⟨[1, 1, 255, 255, 255, 249], []⟩ ≠ .error .outOfRange :=
  have plain : ¬ HandshakeOverflows [1, 1, 255, 255, 255, 249] := by unfold HandshakeOverflows; decide
  ⟨plain, ((framing_within_message_iff plainPrims noJson).1 ⟨[1, 1, 255, 255, 255, 249], []⟩).mpr plain⟩

theorem oversized_length_panics :
    (handshake plainPrims noJson plainHandshakeEnv (.ok ⟨[1, 1, 255, 255, 255, 250], []⟩)
        ⟨"session", false, false⟩ plainManager).1 = .error .outOfRange ∧
      receive plainPrims noJson 0 ⟨"session", true, true⟩ plainManager
        [⟨.ok ⟨[2, 255, 255, 255, 251], []⟩, none⟩] = .error .outOfRange := by
  decide +kernel

end MmoServer.Gateway
