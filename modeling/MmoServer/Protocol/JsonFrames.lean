import MmoServer.Lib.JsonCanonical
import MmoServer.Protocol.Frames

set_option autoImplicit false

namespace MmoServer.Protocol

open JsonText Runes

section Decode

section Fields

variable (s : JsonMsg) (err : Option String)

theorem store_service_type (value : UInt16) :
    storeMember jsonMsgTargets (s, err) (written (fieldName "service_type", .number (.ofNat value.toNat))) =
      ({ s with serviceType := value }, err) := by
  have stored := store_uint_field jsonMsgTargets s err "service_type" _ _ _ _ rfl value.toNat value.toNat_lt
  rwa [UInt16.ofNat_toNat] at stored

theorem store_message_type (value : UInt16) :
    storeMember jsonMsgTargets (s, err) (written (fieldName "message_type", .number (.ofNat value.toNat))) =
      ({ s with messageType := value }, err) := by
  have stored := store_uint_field jsonMsgTargets s err "message_type" _ _ _ _ rfl value.toNat value.toNat_lt
  rwa [UInt16.ofNat_toNat] at stored

theorem store_flags (value : UInt8) :
    storeMember jsonMsgTargets (s, err) (written (fieldName "flags", .number (.ofNat value.toNat))) =
      ({ s with flags := value }, err) := by
  have stored := store_uint_field jsonMsgTargets s err "flags" _ _ _ _ rfl value.toNat value.toNat_lt
  rwa [UInt8.ofNat_toNat] at stored

theorem store_payload (payload : Value) :
    storeMember jsonMsgTargets (s, err) (written (fieldName "payload", payload)) = ({ s with payload := write payload }, err) :=
  store_raw_field jsonMsgTargets s err "payload" _ rfl payload

theorem store_session_id (units : List StringUnit) :
    storeMember jsonMsgTargets (s, err) (written (fieldName "session_id", .string units)) =
      ({ s with sessionID := unquote units }, err) :=
  store_field jsonMsgTargets s err (jsonMsgTargets.get ⟨4, by decide⟩) rfl _ _ rfl

end Fields

theorem message_nesting (m : Message) (payload : Value) : (jsonMessage m payload).nesting = payload.nesting + 1 := by
  rw [jsonMessage]
  split <;> simp [Value.nesting, nestingMembers]

theorem unmarshal_message (m : Message) (payload : Value) (shallow : payload.nesting < maxNestingDepth) :
    unmarshalStruct jsonMsgType jsonMsgTargets {} (write (jsonMessage m payload)) =
      .ok ⟨m.serviceType, m.messageType, m.flags, write payload, unquote (quote m.sessionID)⟩ := by
  rw [unmarshalStruct, read_text _ (message_nesting m payload ▸ shallow), jsonMessage, read_object]
  by_cases empty : m.sessionID = []
  · simp only [empty, if_true, List.append_nil, List.map_cons, List.map_nil, List.foldl_cons, List.foldl_nil, store_service_type,
      store_message_type, store_flags, store_payload]
    rfl
  · simp only [empty, if_false, List.cons_append, List.nil_append, List.map_cons, List.map_nil, List.foldl_cons, List.foldl_nil,
      store_service_type, store_message_type, store_flags, store_payload, store_session_id]

section

variable (now : UInt64) (wrap : Failure → ConvertError) (m : Message) (payload : Value)

theorem json_to_internal (shallow : payload.nesting < maxNestingDepth) :
    jsonToInternal now wrap (write (jsonMessage m payload)) =
      .ok { newMessage now m.serviceType m.messageType (stringPayload (write payload)) with
        flags := m.flags
        sessionID := unquote (quote m.sessionID) } := by
  rw [jsonToInternal, unmarshal_message m payload shallow]

theorem json_to_internal_deep (deep : ¬ payload.nesting < maxNestingDepth) :
    jsonToInternal now wrap (write (jsonMessage m payload)) = .error (wrap .malformed) := by
  have refused : readText (write (jsonMessage m payload)) = none := by
    rw [readText, parse_text]
    exact Option.filter_some_neg (by simpa [message_nesting] using deep)
  rw [jsonToInternal, unmarshalStruct, refused]

end

end Decode

section Payload

variable (floats : Number → Option Number) (payload : List UInt8) (value : Value)

theorem write_positive : (write value).length > 0 := by
  obtain ⟨byte, more, text, _⟩ := write_head value
  rw [text]
  exact Nat.succ_pos _

theorem string_payload_string (units : List StringUnit) : stringPayload (write (.string units)) = unquote units := by
  rw [stringPayload, if_pos (write_positive _), unmarshal_written]

theorem string_payload_self_iff : stringPayload payload = payload ↔ ∃ failure, unmarshalString payload = .error failure := by
  rw [stringPayload]
  split
  · cases read : unmarshalString payload with
    | ok text => simpa using unmarshal_string_ne payload text read
    | error failure => simp
  · rename_i short
    obtain rfl : payload = [] := List.length_eq_zero_iff.mp (Nat.eq_zero_of_not_pos short)
    exact ⟨fun _ => ⟨.malformed, rfl⟩, fun _ => rfl⟩

theorem string_payload_valid : ValidUtf8 (stringPayload payload) ∨ stringPayload payload = payload := by
  rw [stringPayload]
  split
  · cases read : unmarshalString payload with
    | ok text => exact .inl (unmarshal_string_valid payload text read)
    | error failure => exact .inr rfl
  · exact .inl ⟨[], rfl⟩

theorem is_text_escape : IsText (escapeValue value) ↔ IsText value := by
  cases value <;> simp [escapeValue, IsText]

theorem string_payload_other (other : ¬ IsText value) : stringPayload (write value) = write value := by
  rw [string_payload_self_iff, unmarshal_string_fails_iff]
  intro text isText spells
  obtain ⟨same, _⟩ := (read_text_some _ text).mp ((read_text_iff_spells _ text isText).mpr spells)
  cases (parse_text value).symm.trans same
  exact other isText

theorem quic_payload_text (read : readText (quicPayload floats payload) = some value) (text : IsText value) :
    readText payload = some value := by
  rw [quicPayload] at read
  split at read
  · rename_i braces
    split at read
    · rename_i again
      obtain ⟨found, first, next⟩ := Option.bind_eq_some_iff.mp again
      obtain ⟨members, rfl⟩ := parse_text_object payload found braces.1 ((read_text_some _ _).mp first).1
      obtain ⟨others, rfl⟩ := remarshal_object floats members _ next
      cases (parse_text _).symm.trans ((read_text_some _ _).mp read).1
      cases text
    · exact read
  · exact read

theorem quic_payload_ne (read : readText (quicPayload floats payload) = some value) (text : IsText value) :
    stringPayload (write (escapeValue value)) ≠ payload := by
  have own := quic_payload_text floats payload value read text
  cases value with
  | bool | number | array | object => cases text
  | null =>
    rintro rfl
    rw [escape_null, stringPayload, if_pos (write_positive _), unmarshal_null] at own
    cases own
  | string units =>
    rw [escapeValue, string_payload_string]
    exact unquoted_ne payload units ((read_text_iff_spells payload (.string units) trivial).mp own) _ ((marks_chars _ 0).trans (leaves_html units 0))

def resent (floats : Number → Option Number) : Value → Value
  | .object members => escapeValue ((remarshal floats (.object members)).getD (.object members))
  | value => escapeValue value

theorem quic_payload_written (shallow : value.nesting ≤ maxNestingDepth) :
    (readText (quicPayload floats (write value))).map escapeValue = some (resent floats value) := by
  rw [quicPayload, read_text value shallow, Option.bind_some]
  by_cases object : ∃ members, value = .object members
  · rw [if_pos ((write_braces_iff value).mpr object)]
    obtain ⟨members, rfl⟩ := object
    rw [resent]
    cases again : remarshal floats (.object members) with
    | none => simp only [read_text _ shallow, Option.map_some, Option.getD_none]
    | some value =>
      have less := (remarshal_again floats _ value again).2
      simp only [read_text value (less.trans shallow), Option.map_some, Option.getD_some]
  · rw [if_neg (object ∘ (write_braces_iff value).mp), read_text value shallow, Option.map_some]
    cases value with
    | object members => exact absurd ⟨members, rfl⟩ object
    | null | bool | number | string | array => rfl

-- What the encoder leaves as it is. An object is read into a map and written again, if
-- its numbers are in range; other values are only compacted.
def Stable (floats : Number → Option Number) : Value → Prop
  | .object members =>
    (∀ part ∈ (Value.object members).parts, part.Canonical floats) ∨
      (∃ literal, .number literal ∈ (Value.object members).parts ∧ floats literal = none) ∧
        ∀ part ∈ (Value.object members).parts, part.Compact
  | value => ∀ part ∈ value.parts, part.Compact

theorem resent_iff_stable : resent floats value = value ↔ Stable floats value := by
  cases value with
  | object members =>
    rw [resent, Stable, ← remarshal_fixed_iff, ← remarshal_none_iff, ← escape_fixed_iff]
    cases again : remarshal floats (.object members) with
    | none => simp
    | some value => simp [(remarshal_again floats _ value again).1]
  | null | bool | number | string | array => exact escape_fixed_iff _

end Payload

variable (env : ConverterEnv)

structure Same (sent read : Message) : Prop where
  flags : read.flags = sent.flags
  serviceType : read.serviceType = sent.serviceType
  messageType : read.messageType = sent.messageType
  sessionID : read.sessionID = sent.sessionID
  payload : read.payload = sent.payload

def RoundTrips (now : UInt64) (connType : ConnectionType) (formatType : FormatType) (m : OutMessage) : Prop :=
  ∃ rawData read, fromInternal env connType formatType m = .ok rawData ∧ toInternal env now connType formatType rawData = .ok read ∧
    Same m.toMessage read

def received (now : UInt64) (connType : ConnectionType) (formatType : FormatType) (m : OutMessage) : Option (List UInt8) :=
  (fromInternal env connType formatType m).toOption.bind fun rawData =>
    (toInternal env now connType formatType rawData).toOption.map Message.payload

theorem received_same (now : UInt64) (connType : ConnectionType) (formatType : FormatType) (m : OutMessage)
    (trip : RoundTrips env now connType formatType m) : received env now connType formatType m = some m.payload := by
  obtain ⟨rawData, read, sent, converted, same⟩ := trip
  rw [received, sent, Except.toOption, Option.bind_some, converted, Except.toOption, Option.map_some, same.payload]

theorem json_trip (now : UInt64) (connType : ConnectionType) (wrap : Failure → ConvertError) (m : OutMessage) (payload : Value)
    (sends : fromInternal env connType .json m = .ok (write (jsonMessage m.toMessage payload)))
    (reads : toInternal env now connType .json = jsonToInternal now wrap) :
    RoundTrips env now connType .json m ↔
      ValidUtf8 m.sessionID ∧ payload.nesting < maxNestingDepth ∧ stringPayload (write payload) = m.payload := by
  rw [← unquote_quote_iff]
  by_cases shallow : payload.nesting < maxNestingDepth
  · have read := json_to_internal now wrap m.toMessage payload shallow
    rw [← reads] at read
    constructor
    · rintro ⟨rawData, received, sent, converted, same⟩
      cases sends.symm.trans sent
      cases read.symm.trans converted
      exact ⟨same.sessionID, shallow, same.payload⟩
    · rintro ⟨session, _, same⟩
      exact ⟨_, _, sends, read, rfl, rfl, rfl, session, same⟩
  · have refused := json_to_internal_deep now wrap m.toMessage payload shallow
    rw [← reads] at refused
    refine iff_of_false ?_ fun trip => shallow trip.2.1
    rintro ⟨rawData, received, sent, converted, _⟩
    cases sends.symm.trans sent
    cases refused.symm.trans converted

-- A payload that is itself the JSON text of a string, or null, is taken for the
-- string; every other one comes back.
theorem web_socket_json_round_trips_iff (now : UInt64) (m : OutMessage) :
    RoundTrips env now .webSocket .json m ↔
      ValidUtf8 m.payload ∧ ValidUtf8 m.sessionID ∧ ∀ value, IsText value → ¬ Spells m.payload value := by
  have shallow : (Value.string (quote (stringPayload m.payload))).nesting < maxNestingDepth := Nat.succ_pos _
  rw [json_trip env now .webSocket .json m (.string (quote (stringPayload m.payload))) rfl rfl, and_iff_right shallow,
    string_payload_string, ← unmarshal_string_fails_iff, ← string_payload_self_iff]
  constructor
  · rintro ⟨session, payload⟩
    rcases string_payload_valid m.payload with valid | self
    · rw [(unquote_quote_iff _).mpr valid] at payload
      exact ⟨payload ▸ valid, session, payload⟩
    · rw [self] at payload ⊢
      exact ⟨(unquote_quote_iff _).mp payload, session, rfl⟩
  · rintro ⟨valid, session, self⟩
    exact ⟨session, by rw [self]; exact (unquote_quote_iff _).mpr valid⟩

theorem plain_and_array_round_trip :
    RoundTrips plainEnv 0 .webSocket .json (said "hello") ∧ RoundTrips plainEnv 0 .webSocket .json (said "[1, 2]") :=
  ⟨(web_socket_json_round_trips_iff plainEnv 0 (said "hello")).mpr
      ⟨⟨"hello".toList, rfl⟩, ⟨"s1".toList, rfl⟩, (unmarshal_string_fails_iff _).mp ⟨.malformed, by decide +kernel⟩⟩,
    (web_socket_json_round_trips_iff plainEnv 0 (said "[1, 2]")).mpr
      ⟨⟨"[1, 2]".toList, rfl⟩, ⟨"s1".toList, rfl⟩,
        (unmarshal_string_fails_iff _).mp
          ⟨.mismatch "json: cannot unmarshal array into Go value of type string", by decide +kernel⟩⟩⟩

theorem quoted_text_unwrapped :
    (ValidUtf8 (said "\"hi\"").payload ∧ received plainEnv 0 .webSocket .json (said "\"hi\"") = some (Json.utf8 "hi") ∧
      ¬ RoundTrips plainEnv 0 .webSocket .json (said "\"hi\"")) ∧
    received plainEnv 0 .webSocket .json (said "null") = some [] := by
  have quoted : received plainEnv 0 .webSocket .json (said "\"hi\"") = some (Json.utf8 "hi") := by decide +kernel
  refine ⟨⟨⟨"\"hi\"".toList, rfl⟩, quoted, fun trip => ?_⟩, by decide +kernel⟩
  have same := quoted.symm.trans (received_same plainEnv 0 .webSocket .json _ trip)
  revert same
  decide +kernel

-- The payload must be JSON, no string, in the form in which the encoder leaves it, and
-- less deep than the scanner allows, since the message around it adds one level.
theorem quic_json_round_trips_iff (now : UInt64) (m : OutMessage) :
    RoundTrips env now .quic .json m ↔
      ValidUtf8 m.sessionID ∧
        (m.payloadNil = true ∨ ∃ value, m.payload = write value ∧ ¬ IsText value ∧ value.nesting < maxNestingDepth ∧
          Stable env.floats value) := by
  have writes : fromInternal env .quic .json m = internalToQUICJson env.floats m := rfl
  rw [internalToQUICJson] at writes
  by_cases isNil : m.payloadNil = true
  · rw [if_pos isNil] at writes
    rw [json_trip env now .quic .invalidJson m .null writes rfl, stringPayload, if_pos (write_positive _), unmarshal_null,
      m.nilEmpty isNil]
    simp [isNil, Value.nesting, maxNestingDepth]
  · rw [if_neg isNil] at writes
    have embedded : ∀ value, m.payload = write value → value.nesting < maxNestingDepth →
        (readText (quicPayload env.floats m.payload)).map escapeValue = some (resent env.floats value) :=
      fun value text shallow => text ▸ quic_payload_written env.floats value (le_of_lt shallow)
    cases read : readText (quicPayload env.floats m.payload) with
    | none =>
      simp only [read, Option.map_none] at writes embedded
      constructor
      · rintro ⟨rawData, received, sent, _⟩
        cases writes.symm.trans sent
      · rintro ⟨_, absent | ⟨value, text, _, shallow, _⟩⟩
        · exact absurd absent isNil
        · cases embedded value text shallow
    | some found =>
      simp only [read, Option.map_some, Option.some.injEq] at writes embedded
      rw [json_trip env now .quic .invalidJson m _ writes rfl]
      refine and_congr_right fun _ => ?_
      rw [or_iff_right isNil]
      constructor
      · rintro ⟨shallow, same⟩
        have other : ¬ IsText found := fun text => quic_payload_ne env.floats m.payload found read text same
        rw [string_payload_other _ (other ∘ (is_text_escape found).mp)] at same
        exact ⟨escapeValue found, same.symm, other ∘ (is_text_escape found).mp, shallow,
          (resent_iff_stable _ _).mp (embedded _ same.symm shallow).symm⟩
      · rintro ⟨value, text, other, shallow, stable⟩
        rw [embedded value text shallow, (resent_iff_stable _ _).mpr stable, string_payload_other value other, text]
        exact ⟨shallow, rfl⟩

theorem object_embedded : RoundTrips plainEnv 0 .quic .json (said "\x7b\"a\":[1,true]\x7d") := by
  refine (quic_json_round_trips_iff plainEnv 0 _).mpr ⟨⟨"s1".toList, rfl⟩, .inr ?_⟩
  refine ⟨.object [(fieldName "a", .array [.number (.ofNat 1), .bool true])], by decide +kernel, id, by decide, ?_⟩
  exact (resent_iff_stable _ _).mp (by rfl)

theorem plain_text_not_sent :
    (ValidUtf8 (said "hello").payload ∧ fromInternal plainEnv .quic .json (said "hello") = .error .marshal ∧
      ¬ RoundTrips plainEnv 0 .quic .json (said "hello")) ∧
    received plainEnv 0 .quic .json (said "\"hi\"") = some (Json.utf8 "hi") ∧
    received plainEnv 0 .quic .json (said "\x7b\"b\":1, \"a\":2\x7d") = some (Json.utf8 "\x7b\"a\":2,\"b\":1\x7d") := by
  have refused : fromInternal plainEnv .quic .json (said "hello") = .error .marshal := by rfl
  refine ⟨⟨⟨"hello".toList, rfl⟩, refused, ?_⟩, by decide +kernel, by decide +kernel⟩
  rintro ⟨rawData, read, sent, _⟩
  cases refused.symm.trans sent

end MmoServer.Protocol
