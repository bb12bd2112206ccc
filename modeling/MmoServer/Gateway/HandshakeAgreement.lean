import MmoServer.Gateway.SecureClient

set_option autoImplicit false

namespace MmoServer.Gateway

open Bytes Security

theorem read_built_frame (texts : HandshakeTexts) (kind : UInt8) (body : List UInt8) (fits : 6 + body.length < 2 ^ 32) :
    readHandshakeFrame texts kind ⟨[messageTypeHandshake, kind] ++ putNat 4 body.length ++ body, []⟩ = .ok body := by
  obtain ⟨first, second, here, there, frame⟩ := read_handshake_frame_long texts kind
    ⟨[messageTypeHandshake, kind] ++ putNat 4 body.length ++ body, []⟩ (by simp)
  have length : ((([messageTypeHandshake, kind] ++ putNat 4 body.length ++ body).take 6).drop 2) = putNat 4 body.length := by
    rw [List.take_left' (by simp)]
    rfl
  have stop : (6 + body.length % 256 ^ 4) % 2 ^ 32 = 6 + body.length := by omega
  have whole : ([messageTypeHandshake, kind] ++ putNat 4 body.length ++ body).length = 6 + body.length := by simp; omega
  cases here
  cases there
  rw [frame, length, get_put_nat, stop, whole, if_neg (by simp), if_neg (by omega), Slice.slice_within _ _ _ (by omega) whole.ge,
    List.take_of_length_le whole.le, List.drop_left' (by simp)]

section Request

variable (privateKey : PrivateKey) (unixNano : Int64)

theorem int64_text_length : (toString unixNano.toInt).length ≤ 20 := by
  have low := unixNano.le_toInt
  have high := unixNano.toInt_lt
  generalize unixNano.toInt = value at low high
  cases value with
  | ofNat n =>
    have digits := Nat.repr_length n 19 (by norm_num) (by simp at high; omega)
    exact digits.trans (by norm_num)
  | negSucc n =>
    have digits := Nat.repr_length (n + 1) 19 (by norm_num) (by omega)
    have text : toString (Int.negSucc n) = "-" ++ (n + 1).repr := rfl
    rw [text, String.length_append]
    have minus : ("-" : String).length = 1 := rfl
    omega

theorem encoded_key_length (key : PublicKey) : (Base64.encode (marshal key)).length = 88 := by
  rw [Base64.encode, String.length_ofList, Base64.encode_chars_length, marshal_length]

theorem encoded_key_rejected (key : PublicKey) : unmarshal (Json.utf8 (Base64.encode (marshal key))) = none := by
  apply unmarshal_length
  rw [Json.utf8_length_ascii, encoded_key_length]
  · decide
  · rw [Base64.encode, String.toList_ofList]
    exact Base64.encode_chars_ascii _

theorem request_fits : (Client.newSecureClient privateKey unixNano).hsRequest.json.marshal.length + 6 < 2 ^ 32 := by
  have bytes := Json.utf8_length_le (Client.newSecureClient privateKey unixNano).hsRequest.json.write
  have key := Json.quote_length_le (Base64.encode (marshal privateKey.publicKey))
  have session := Json.quote_length_le ("client-" ++ toString unixNano.toInt)
  have digits := int64_text_length unixNano
  rw [encoded_key_length] at key
  rw [String.length_append] at session
  have written : (Client.newSecureClient privateKey unixNano).hsRequest.json.write.length =
      (Json.quote (Base64.encode (marshal privateKey.publicKey))).length +
        (Json.quote ("client-" ++ toString unixNano.toInt)).length + 54 := by
    have names : (Json.quote "type").length = 6 ∧ (Json.quote "public_key").length = 12 ∧ (Json.quote "session_id").length = 12 ∧
        (Json.quote "version").length = 9 ∧ (Json.quote "1.0").length = 5 ∧
        (toString (messageTypeHandshakeRequest.toNat : Int)).length = 1 := by
      decide +kernel
    have marks : ("\x7b" : String).length = 1 ∧ ("\x7d" : String).length = 1 ∧ (":" : String).length = 1 ∧ ("," : String).length = 1 := by
      decide
    simp only [Client.SecureClient.hsRequest, Client.HandshakeMessage.json, Client.newSecureClient, Json.write, Json.writeFields,
      String.length_append, names, marks]
    omega
  rw [Json.marshal]
  have client : ("client-" : String).length = 7 := rfl
  omega

end Request

theorem request_read (m : Client.HandshakeMessage) (typed : 0 ≤ m.type ∧ m.type ≤ 255) :
    Json.unmarshal "gateway.HandshakeMessage" handshakeFields {} m.json =
      .ok { type := m.type, publicKey := Base64.encode m.publicKey, sessionID := m.sessionID } := by
  have range : minInt64 ≤ m.type ∧ m.type ≤ maxInt64 := by
    rw [minInt64, maxInt64]
    omega
  have found : Json.sameName "type" "type" = true ∧ Json.sameName "public_key" "public_key" = true ∧
      Json.sameName "session_id" "session_id" = true := by
    decide +kernel
  have others : Json.sameName "type" "public_key" = false ∧ Json.sameName "type" "session_id" = false ∧
      Json.sameName "public_key" "session_id" = false ∧ ∀ field ∈ handshakeFields, Json.sameName field.name "version" = false := by
    decide +kernel
  have unknown : handshakeFields.find? (fun field => Json.sameName field.name "version") = none := by
    rw [List.find?_eq_none]
    intro field member
    rw [others.2.2.2 field member]
    simp
  simp only [Client.HandshakeMessage.json, Json.unmarshal, List.foldl_cons, List.foldl_nil, Json.storeKey, unknown]
  simp [handshakeFields, found, others, Json.storeInt, Json.storeString, range]

variable (prims : Primitives) (parse : List UInt8 → Except String Json) (env : HandshakeEnv) (cm : CryptoManager) (sessionID : String)

theorem derive_from_text_fails (env : KeyEnv) (sessionID : String) (key : PublicKey) (cm : CryptoManager) :
    ∃ text, (cm.deriveSharedKey prims env sessionID (Json.utf8 (Base64.encode (marshal key)))).1 = .error text := by
  simp only [CryptoManager.deriveSharedKey, encoded_key_rejected]
  split
  · exact ⟨_, rfl⟩
  · exact ⟨_, rfl⟩

theorem request_refused (m : Client.HandshakeMessage) (key : PublicKey) (keyed : m.publicKey = marshal key)
    (typed : 0 ≤ m.type ∧ m.type ≤ 255) (body : List UInt8) (fits : 6 + body.length < 2 ^ 32) (decodes : parse body = .ok m.json) :
    ∃ text, (SecureWebSocketConnection.handshake prims parse env
      (.ok ⟨[messageTypeHandshake, messageTypeHandshakeRequest] ++ putNat 4 body.length ++ body, []⟩)
      ⟨sessionID, false, false⟩ cm).1 = .error (.error text) := by
  have read := read_built_frame requestTexts messageTypeHandshakeRequest body fits
  obtain ⟨text, failed⟩ := derive_from_text_fails prims env.keys sessionID key cm
  simp only [SecureWebSocketConnection.handshake, read, decodes, bind, Except.bind, request_read m typed, keyed]
  split
  · rename_i done
    cases done
  · split
    · exact ⟨_, rfl⟩
    · split
      · exact ⟨_, rfl⟩
      · rename_i derived
        rw [derived] at failed
        cases failed

theorem exchange_refused (client : Client.SecureClient) (frame : List UInt8) (requested : client.request = .ok frame) (text : String)
    (refused : (SecureWebSocketConnection.handshake prims parse env (.ok ⟨frame, []⟩) ⟨sessionID, false, false⟩ cm).1 = .error (.error text)) :
    (exchange prims parse env client sessionID cm).served = .error (.error text) := by
  delta exchange
  split
  · rename_i failed
    rw [requested] at failed
    cases failed
  · rename_i request sent
    rw [requested, Except.ok.injEq] at sent
    subst sent
    split
    · rename_i answered
      rw [answered] at refused
      cases refused
    · rename_i answered
      rw [answered] at refused
      exact refused

theorem handshake_never_agrees (prims : Primitives) (parse : List UInt8 → Except String Json) (env : HandshakeEnv) (cm : CryptoManager)
    (sessionID : String) (privateKey : PrivateKey) (unixNano : Int64)
    (decodes : parse (Client.newSecureClient privateKey unixNano).hsRequest.json.marshal =
      .ok (Client.newSecureClient privateKey unixNano).hsRequest.json) :
    (∃ text, (exchange prims parse env (Client.newSecureClient privateKey unixNano) sessionID cm).served = .error (.error text)) ∧
      ¬ (exchange prims parse env (Client.newSecureClient privateKey unixNano) sessionID cm).Agreed := by
  have fits := request_fits privateKey unixNano
  have typed : 0 ≤ (Client.newSecureClient privateKey unixNano).hsRequest.type ∧
      (Client.newSecureClient privateKey unixNano).hsRequest.type ≤ 255 :=
    show (0 : Int) ≤ messageTypeHandshakeRequest.toNat ∧ (messageTypeHandshakeRequest.toNat : Int) ≤ 255 by decide
  have keyed : (Client.newSecureClient privateKey unixNano).hsRequest.publicKey = marshal privateKey.publicKey := rfl
  generalize Client.newSecureClient privateKey unixNano = client at *
  obtain ⟨text, refused⟩ := request_refused prims parse env cm sessionID client.hsRequest privateKey.publicKey keyed typed
    client.hsRequest.json.marshal (by omega) decodes
  have requested := build_frame_fits [messageTypeHandshake, messageTypeHandshakeRequest] client.hsRequest.json.marshal
    (by rw [List.length_cons, List.length_singleton]; omega)
  have served := exchange_refused prims parse env cm sessionID client _ requested text refused
  refine ⟨⟨text, served⟩, ?_⟩
  rintro ⟨response, _, _, answered, _⟩
  rw [served] at answered
  cases answered

def baseClient : Client.SecureClient := Client.newSecureClient baseKey 1

def readsRequest (content : List UInt8) : Except String Json :=
  if content = baseClient.hsRequest.json.marshal then .ok baseClient.hsRequest.json else .error "invalid character"

theorem base_client_refused :
    readsRequest baseClient.hsRequest.json.marshal = .ok baseClient.hsRequest.json ∧
      ¬ (exchange plainPrims readsRequest plainHandshakeEnv baseClient "e7d0" plainManager).Agreed :=
  have decodes : readsRequest baseClient.hsRequest.json.marshal = .ok baseClient.hsRequest.json := if_pos rfl
  ⟨decodes, (handshake_never_agrees plainPrims readsRequest plainHandshakeEnv plainManager "e7d0" baseKey 1 decodes).2⟩

def errorOf {α : Type} : Except Fault α → Option Fault
  | .ok _ => none
  | .error fault => some fault

theorem handshake_fails_on_both_sides :
    errorOf (exchange plainPrims readsRequest plainHandshakeEnv baseClient "e7d0" plainManager).served =
        some (.error "session ID mismatch: expected e7d0, got client-1") ∧
      errorOf (exchange plainPrims readsRequest plainHandshakeEnv baseClient "client-1" plainManager).served =
        some (.error "derive shared key error: invalid public key") ∧
      errorOf (exchange plainPrims readsRequest plainHandshakeEnv baseClient "client-1" plainManager).client =
        some (.error "read handshake response error: unexpected EOF") := by
  decide +kernel

end MmoServer.Gateway
