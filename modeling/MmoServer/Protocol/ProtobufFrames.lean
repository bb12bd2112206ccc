import MmoServer.Lib.Decimal
import MmoServer.Protocol.Frames

set_option autoImplicit false

namespace MmoServer.Protocol

open Json

section Hash

def natHash (bytes : List UInt8) : Nat := bytes.foldl (fun h byte => 31 * h + byte.toNat) 0

theorem nat_hash_snoc (bytes : List UInt8) (last : UInt8) : natHash (bytes ++ [last]) = 31 * natHash bytes + last.toNat := by
  rw [natHash, List.foldl_append]
  rfl

theorem hash_string_nat (bytes : List UInt8) : hashString bytes = Int64.ofNat (natHash bytes) := by
  have onward : ∀ h : Nat, bytes.foldl (fun h byte => 31 * h + Int64.ofNat byte.toNat) (Int64.ofNat h) =
      Int64.ofNat (bytes.foldl (fun h byte => 31 * h + byte.toNat) h) := by
    induction bytes with
    | nil =>
      intro h
      rfl
    | cons byte rest ih =>
      intro h
      rw [List.foldl_cons, List.foldl_cons, ← ih, Int64.ofNat_add, Int64.ofNat_mul]
      rfl
  exact onward 0

theorem hashed_type_nat (name : List UInt8) (small : natHash name < 2 ^ 63) :
    hashedType name = UInt16.ofNat (natHash name % 65535) := by
  have modulus : (65535 : Int64).toInt = (65535 : Nat) := by decide
  have remainder : hashString name % 65535 = Int64.ofNat (natHash name % 65535) := by
    rw [← Int64.toInt_inj, Int64.toInt_mod, hash_string_nat, Int64.toInt_ofNat_of_lt small,
      Int64.toInt_ofNat_of_lt (by omega), modulus, ← Int.ofNat_tmod]
  rw [hashedType, remainder, ← UInt16.toBitVec_inj, Int64.toBitVec_ofNat', UInt16.toBitVec_ofNat',
    BitVec.setWidth_ofNat_of_le (by decide)]

theorem nat_hash_le (bytes : List UInt8) (ascii : ∀ byte ∈ bytes, byte.toNat < 128) :
    natHash bytes + 5 ≤ 5 * 31 ^ bytes.length := by
  induction bytes using List.reverseRecOn with
  | nil => decide
  | append_singleton bytes last ih =>
    have before := ih fun byte member => ascii byte (List.mem_append_left _ member)
    have least := ascii last (by simp)
    rw [nat_hash_snoc, List.length_append, List.length_singleton, Nat.pow_succ]
    omega

theorem hashed_type_eq_iff (name : List UInt8) (ascii : ∀ byte ∈ name, byte.toNat < 128) (short : name.length ≤ 12)
    (value : UInt16) : hashedType name = value ↔ natHash name % 65535 = value.toNat := by
  have bound := nat_hash_le name ascii
  have power : (31 : Nat) ^ name.length ≤ 31 ^ 12 := Nat.pow_le_pow_right (by decide) short
  rw [hashed_type_nat name (by omega), ← UInt16.toNat_inj, UInt16.toNat_ofNat', Nat.mod_eq_of_lt (a := natHash name % 65535)]
  omega

end Hash

section Numbered

def numberedName (stem : String) (value : UInt16) : List UInt8 := utf8 (stem ++ toString value.toNat)

def numberedHash (stem : Nat) : Nat → Nat → Nat
  | 0, _ => stem
  | digits + 1, value => 31 * (if value < 10 then stem else numberedHash stem digits (value / 10)) + (48 + value % 10)

theorem nat_hash_numbered (stem : List UInt8) (digits value : Nat) (small : value < 10 ^ (digits + 1)) :
    natHash (stem ++ Decimal.text value) = numberedHash (natHash stem) (digits + 1) value := by
  induction digits generalizing value with
  | zero =>
    rw [Decimal.text_eq, if_pos (by omega), List.nil_append, nat_hash_snoc, numberedHash, if_pos (by omega), UInt8.toNat_ofNat']
    omega
  | succ digits ih =>
    rw [Decimal.text_eq, ← List.append_assoc, nat_hash_snoc, numberedHash, UInt8.toNat_ofNat']
    have digit : (48 + value % 10) % 2 ^ 8 = 48 + value % 10 := by omega
    rw [digit]
    split
    · rw [List.append_nil]
    · rw [ih (value / 10) (by rw [Nat.pow_succ] at small; omega)]

theorem numbered_name_eq (stem : String) (value : UInt16) : numberedName stem value = utf8 stem ++ Decimal.text value.toNat :=
  utf8_append stem _

variable (stem : String) (ascii : ∀ byte ∈ utf8 stem, byte.toNat < 128) (short : (utf8 stem).length ≤ 7)

include ascii short

theorem numbered_type_eq_iff (value : UInt16) :
    hashedType (numberedName stem value) = value ↔ numberedHash (natHash (utf8 stem)) 5 value.toNat % 65535 = value.toNat := by
  have bound : value.toNat < 10 ^ (4 + 1) := by
    have := value.toNat_lt
    omega
  have digits := Decimal.text_length 4 value.toNat bound
  rw [numbered_name_eq, hashed_type_eq_iff, nat_hash_numbered (utf8 stem) 4 value.toNat bound]
  · intro byte member
    rcases List.mem_append.mp member with stemmed | digit
    · exact ascii byte stemmed
    · have := Decimal.text_bytes value.toNat byte digit
      omega
  · rw [List.length_append]
    omega

-- The last digit adds the same to both sides, so ten numbers are kept or lost together.
theorem numbered_type_tens (value : UInt16) (kept : hashedType (numberedName stem value) = value) :
    (31 * (if value.toNat < 10 then natHash (utf8 stem) else numberedHash (natHash (utf8 stem)) 4 (value.toNat / 10)) + 48) % 65535 =
      10 * (value.toNat / 10) := by
  rw [numbered_type_eq_iff stem ascii short, numberedHash] at kept
  have := value.toNat_lt
  omega

theorem numbered_type_hundreds (value : UInt16) (large : 100 ≤ value.toNat) (kept : hashedType (numberedName stem value) = value) :
    (961 * numberedHash (natHash (utf8 stem)) 3 (value.toNat / 10 / 10) + 1536 + 21 * (value.toNat / 10 % 10)) % 65535 =
      100 * (value.toNat / 10 / 10) := by
  have tens := numbered_type_tens stem ascii short value kept
  rw [if_neg (by omega), numberedHash, if_neg (by omega)] at tens
  have bound := value.toNat_lt
  generalize numberedHash (natHash (utf8 stem)) 3 (value.toNat / 10 / 10) = hundreds at tens ⊢
  have digits : value.toNat / 10 = 10 * (value.toNat / 10 / 10) + value.toNat / 10 % 10 := by omega
  have small : value.toNat / 10 / 10 ≤ 655 := by omega
  generalize value.toNat / 10 / 10 = upper at digits small ⊢
  generalize value.toNat / 10 % 10 = digit at tens digits ⊢
  rw [digits] at tens
  omega

omit ascii short in
theorem numbered_hash_mod_three (start digits value : Nat) (small : value < 10 ^ digits) :
    numberedHash start digits value % 3 = (start + value) % 3 := by
  induction digits generalizing value with
  | zero =>
    rw [numberedHash]
    omega
  | succ digits ih =>
    have higher := ih (value / 10) (by rw [Nat.pow_succ] at small; omega)
    rw [numberedHash]
    split
    · omega
    · omega

-- The modulus is a multiple of three, and modulo three a hash is a sum of digits.
theorem numbered_type_moves (remainder : natHash (utf8 stem) % 3 ≠ 0) (value : UInt16) :
    hashedType (numberedName stem value) ≠ value := by
  intro kept
  rw [numbered_type_eq_iff stem ascii short] at kept
  have := value.toNat_lt
  have digits := numbered_hash_mod_three (natHash (utf8 stem)) 5 value.toNat (by omega)
  omega

end Numbered

section Names

theorem utf8_message : utf8 "message" = [109, 101, 115, 115, 97, 103, 101] := by simp [utf8, String.utf8EncodeChar]

theorem utf8_service : utf8 "service" = [115, 101, 114, 118, 105, 99, 101] := by simp [utf8, String.utf8EncodeChar]

theorem message_number_moves (value : UInt16) : hashedType (numberedName "message" value) ≠ value := by
  have stem : natHash (utf8 "message") = 99739172871 := by
    rw [utf8_message]
    rfl
  have ascii : ∀ byte ∈ utf8 "message", byte.toNat < 128 := by simp [utf8_message]
  have short : (utf8 "message").length ≤ 7 := by simp [utf8_message]
  have bound := value.toNat_lt
  intro kept
  rcases Nat.lt_or_ge value.toNat 100 with small | large
  · have none : ∀ number < 100, numberedHash 99739172871 5 number % 65535 ≠ number := by decide +kernel
    rw [numbered_type_eq_iff "message" ascii short, stem] at kept
    exact none value.toNat small kept
  · have none : ∀ hundreds < 656, ∀ digit < 10,
        (961 * numberedHash 99739172871 3 hundreds + 1536 + 21 * digit) % 65535 ≠ 100 * hundreds := by
      decide +kernel
    have found := numbered_type_hundreds "message" ascii short value large kept
    rw [stem] at found
    exact none (value.toNat / 10 / 10) (by omega) (value.toNat / 10 % 10) (by omega) found

theorem service_number_kept_iff (value : UInt16) :
    hashedType (numberedName "service" value) = value ↔ 62360 ≤ value.toNat ∧ value.toNat ≤ 62369 := by
  have stem : natHash (utf8 "service") = 105063368373 := by
    rw [utf8_service]
    rfl
  have ascii : ∀ byte ∈ utf8 "service", byte.toNat < 128 := by simp [utf8_service]
  have short : (utf8 "service").length ≤ 7 := by simp [utf8_service]
  have bound := value.toNat_lt
  constructor
  · intro kept
    rcases Nat.lt_or_ge value.toNat 100 with small | large
    · have none : ∀ number < 100, numberedHash 105063368373 5 number % 65535 ≠ number := by decide +kernel
      rw [numbered_type_eq_iff "service" ascii short, stem] at kept
      exact absurd kept (none value.toNat small)
    · have one : ∀ hundreds < 656, ∀ digit < 10,
          (961 * numberedHash 105063368373 3 hundreds + 1536 + 21 * digit) % 65535 = 100 * hundreds →
            hundreds = 623 ∧ digit = 6 := by
        decide +kernel
      have found := numbered_type_hundreds "service" ascii short value large kept
      rw [stem] at found
      obtain ⟨upper, digit⟩ := one (value.toNat / 10 / 10) (by omega) (value.toNat / 10 % 10) (by omega) found
      clear one found
      omega
  · rintro ⟨low, high⟩
    rw [numbered_type_eq_iff "service" ascii short, stem]
    have all : ∀ last < 10, numberedHash 105063368373 5 (62360 + last) % 65535 = 62360 + last := by decide +kernel
    have here := all (value.toNat - 62360) (by omega)
    rwa [Nat.add_sub_cancel' low] at here

theorem service_name_moves (value : UInt16) : hashedType (utf8 (serviceTypeToName value)) ≠ value := by
  unfold serviceTypeToName
  split_ifs with gateway chat game auth
  · subst gateway
    decide +kernel
  · subst chat
    decide +kernel
  · subst game
    decide +kernel
  · subst auth
    decide +kernel
  · have ascii : ∀ byte ∈ utf8 "Service", byte.toNat < 128 := by simp [utf8, String.utf8EncodeChar]
    exact numbered_type_moves "Service" ascii (by decide +kernel) (by decide +kernel) value

theorem message_name_moves (value : UInt16) : hashedType (utf8 (messageTypeToName value)) ≠ value := by
  unfold messageTypeToName
  split_ifs with request response notified error
  · subst request
    decide +kernel
  · subst response
    decide +kernel
  · subst notified
    decide +kernel
  · subst error
    decide +kernel
  · have ascii : ∀ byte ∈ utf8 "Message", byte.toNat < 128 := by simp [utf8, String.utf8EncodeChar]
    exact numbered_type_moves "Message" ascii (by decide +kernel) (by decide +kernel) value

end Names

section Names

def Plain (name : List UInt8) : Prop := ∀ byte ∈ name, byte ≠ 46 ∧ byte ≠ 47

instance (name : List UInt8) : Decidable (Plain name) := inferInstanceAs (Decidable (∀ byte ∈ name, byte ≠ 46 ∧ byte ≠ 47))

theorem plain_numbered (stem : String) (plain : Plain (utf8 stem)) (value : UInt16) : Plain (numberedName stem value) := by
  intro byte member
  rw [numbered_name_eq, List.mem_append] at member
  rcases member with stemmed | digit
  · exact plain byte stemmed
  · have bounds := Decimal.text_bytes value.toNat byte digit
    constructor
    · rintro rfl
      exact absurd bounds (by decide)
    · rintro rfl
      exact absurd bounds (by decide)

theorem plain_service_name (value : UInt16) : Plain (utf8 (serviceTypeToName value)) := by
  unfold serviceTypeToName
  split_ifs
  iterate 4 simp [Plain, utf8, String.utf8EncodeChar]
  exact plain_numbered "Service" (by simp [Plain, utf8, String.utf8EncodeChar]) value

theorem plain_message_name (value : UInt16) : Plain (utf8 (messageTypeToName value)) := by
  unfold messageTypeToName
  split_ifs
  iterate 4 simp [Plain, utf8, String.utf8EncodeChar]
  exact plain_numbered "Message" (by simp [Plain, utf8, String.utf8EncodeChar]) value

theorem split_once (first second : List UInt8) (separator : UInt8) (left : ∀ byte ∈ first, byte ≠ separator)
    (right : ∀ byte ∈ second, byte ≠ separator) : (first ++ separator :: second).splitOn separator = [first, second] := by
  rw [split_first first second separator left, split_whole second separator right]

end Names

section Trip

variable (env : ConverterEnv)

-- What the encoding of Any has to bring with it; a type URL that is not UTF-8 it may refuse.
def AnyRoundTrip : Prop :=
  ∀ any : Any, Runes.ValidUtf8 any.typeUrl → ∃ rawData, env.marshalAny any = .ok rawData ∧ env.unmarshalAny rawData = .ok any

theorem protobuf_trip (codec : AnyRoundTrip env) (now : UInt64) (wrap : String → ConvertError) (service message : String)
    (plainService : Plain (utf8 service)) (plainMessage : Plain (utf8 message)) (m : Message) :
    ∃ rawData, internalToProtobuf env (service ++ "." ++ message) m = .ok rawData ∧
      protobufToInternal env now wrap rawData =
        .ok (newMessage now (hashedType (utf8 service)) (hashedType (utf8 message)) m.payload) := by
  have url : utf8 ("type.googleapis.com/" ++ (service ++ "." ++ message)) =
      utf8 "type.googleapis.com" ++ 47 :: (utf8 service ++ 46 :: utf8 message) := by
    have host : utf8 "type.googleapis.com/" = utf8 "type.googleapis.com" ++ [47] := by simp [utf8, String.utf8EncodeChar]
    have dot : utf8 "." = [46] := by decide +kernel
    rw [utf8_append, utf8_append, utf8_append, host, dot]
    simp only [List.append_assoc, List.singleton_append]
  obtain ⟨rawData, marshalled, unmarshalled⟩ :=
    codec ⟨utf8 ("type.googleapis.com/" ++ (service ++ "." ++ message)), m.payload⟩ ⟨_, rfl⟩
  refine ⟨rawData, by rw [internalToProtobuf, marshalled], ?_⟩
  have outer : (utf8 "type.googleapis.com" ++ 47 :: (utf8 service ++ 46 :: utf8 message)).splitOn 47 =
      [utf8 "type.googleapis.com", utf8 service ++ 46 :: utf8 message] := by
    apply split_once
    · simp [utf8, String.utf8EncodeChar]
    · intro byte member
      rcases List.mem_append.mp member with inService | rest
      · exact (plainService byte inService).2
      · rcases List.mem_cons.mp rest with rfl | inMessage
        · decide
        · exact (plainMessage byte inMessage).2
  have inner : (utf8 service ++ 46 :: utf8 message).splitOn 46 = [utf8 service, utf8 message] :=
    split_once _ _ 46 (fun byte member => (plainService byte member).1) fun byte member => (plainMessage byte member).1
  rw [protobufToInternal, unmarshalled]
  simp only [url, outer, inner]

end Trip

section Processors

theorem processor_key_nat (serviceType messageType : UInt16) :
    (makeProcessorKey serviceType messageType).toNat = serviceType.toNat * 65536 + messageType.toNat := by
  have service := serviceType.toNat_lt
  have message := messageType.toNat_lt
  have shifted : (serviceType.toUInt32 <<< 16).toNat = serviceType.toNat <<< 16 := by
    have places : (16 : UInt32).toNat % 32 = 16 := rfl
    rw [UInt32.toNat_shiftLeft, UInt16.toNat_toUInt32, places, Nat.shiftLeft_eq]
    omega
  rw [makeProcessorKey, UInt32.toNat_or, shifted, UInt16.toNat_toUInt32, ← Nat.shiftLeft_add_eq_or_of_lt message, Nat.shiftLeft_eq]

theorem get_processor_register {P : Type} (serviceType messageType otherService otherMessage : UInt16) (processor : P)
    (c : ProtocolConverter P) :
    getProcessor otherService otherMessage (registerMessageType serviceType messageType processor c) =
      if otherService = serviceType ∧ otherMessage = messageType then some processor
      else getProcessor otherService otherMessage c := by
  have same : makeProcessorKey otherService otherMessage = makeProcessorKey serviceType messageType ↔
      otherService = serviceType ∧ otherMessage = messageType := by
    rw [← UInt32.toNat_inj, processor_key_nat, processor_key_nat, ← UInt16.toNat_inj, ← UInt16.toNat_inj]
    have := serviceType.toNat_lt
    have := messageType.toNat_lt
    have := otherService.toNat_lt
    have := otherMessage.toNat_lt
    omega
  simp only [getProcessor, registerMessageType, AList.lookup_insert_eq, same]

end Processors

-- A frame comes back with its payload, never with its message type, and so never with its processor.
theorem protobuf_frames_lose_their_types {P : Type} (env : ConverterEnv) (codec : AnyRoundTrip env) (now : UInt64)
    (connType : ConnectionType) (known : connType = .webSocket ∨ connType = .quic) (m : OutMessage) :
    ∃ rawData read, fromInternal env connType .protobuf m = .ok rawData ∧
      toInternal env now connType .protobuf rawData = .ok read ∧ read.payload = m.payload ∧ read.messageType ≠ m.messageType ∧
      (read.serviceType = m.serviceType ↔
        connType = .webSocket ∧ 62360 ≤ m.serviceType.toNat ∧ m.serviceType.toNat ≤ 62369) ∧
      ∀ (processor : P) (c : ProtocolConverter P),
        getProcessor read.serviceType read.messageType (registerMessageType m.serviceType m.messageType processor c) =
          getProcessor read.serviceType read.messageType c := by
  have unregistered : ∀ read : Message, read.messageType ≠ m.messageType → ∀ (processor : P) (c : ProtocolConverter P),
      getProcessor read.serviceType read.messageType (registerMessageType m.serviceType m.messageType processor c) =
        getProcessor read.serviceType read.messageType c := by
    intro read moved processor c
    rw [get_processor_register, if_neg (fun same => moved same.2)]
  rcases known with rfl | rfl
  · obtain ⟨rawData, written, read⟩ := protobuf_trip env codec now .proto ("service" ++ toString m.serviceType.toNat)
      ("message" ++ toString m.messageType.toNat) (plain_numbered "service" (by simp [Plain, utf8_service]) m.serviceType)
      (plain_numbered "message" (by simp [Plain, utf8_message]) m.messageType) m.toMessage
    refine ⟨rawData, _, ?_, read, rfl, message_number_moves m.messageType, ?_, unregistered _ (message_number_moves m.messageType)⟩
    · rw [← written]
      simp only [fromInternal, convertInternalToWebSocket, String.append_assoc]
      rfl
    · exact (service_number_kept_iff m.serviceType).trans (by simp)
  · obtain ⟨rawData, written, read⟩ := protobuf_trip env codec now .invalidWith (serviceTypeToName m.serviceType)
      (messageTypeToName m.messageType) (plain_service_name m.serviceType) (plain_message_name m.messageType) m.toMessage
    refine ⟨rawData, _, written, read, rfl, message_name_moves m.messageType, ?_, unregistered _ (message_name_moves m.messageType)⟩
    exact iff_of_false (service_name_moves m.serviceType) (by simp)

def markedAny : List UInt8 → Except String Any
  | 1 :: byte :: rest => (markedAny rest).map fun any => { any with typeUrl := byte :: any.typeUrl }
  | 0 :: value => .ok ⟨[], value⟩
  | _ => .error "unexpected EOF"

def markedEnv : ConverterEnv where
  floats := some
  marshalAny any := .ok (any.typeUrl.flatMap (fun byte => [1, byte]) ++ 0 :: any.value)
  unmarshalAny := markedAny

theorem marked_any_round_trip : AnyRoundTrip markedEnv := by
  rintro ⟨typeUrl, value⟩ -
  refine ⟨_, rfl, ?_⟩
  change markedAny (typeUrl.flatMap (fun byte => [1, byte]) ++ 0 :: value) = .ok ⟨typeUrl, value⟩
  induction typeUrl with
  | nil => rfl
  | cons byte rest ih =>
    simp only [List.flatMap_cons, List.cons_append, List.nil_append, markedAny, ih]
    rfl

theorem said_loses_its_types :
    ∃ rawData read, fromInternal markedEnv .quic .protobuf (said "hi") = .ok rawData ∧
      toInternal markedEnv 0 .quic .protobuf rawData = .ok read ∧ read.messageType ≠ 1 ∧
      getProcessor read.serviceType read.messageType (registerMessageType 2 1 "chat" newProtocolConverter) = none := by
  obtain ⟨rawData, read, written, converted, -, moved, -, unfound⟩ :=
    protobuf_frames_lose_their_types (P := String) markedEnv marked_any_round_trip 0 .quic (.inr rfl) (said "hi")
  exact ⟨rawData, read, written, converted, moved, unfound "chat" newProtocolConverter⟩

theorem chat_request_renumbered :
    ∃ rawData read, fromInternal markedEnv .quic .protobuf (said "hi") = .ok rawData ∧
      toInternal markedEnv 0 .quic .protobuf rawData = .ok read ∧ (read.serviceType, read.messageType) = (1944, 12040) := by
  obtain ⟨rawData, written, read⟩ := protobuf_trip markedEnv marked_any_round_trip 0 .invalidWith "Chat" "Request"
    (by simp [Plain, utf8, String.utf8EncodeChar]) (by simp [Plain, utf8, String.utf8EncodeChar]) (said "hi").toMessage
  refine ⟨rawData, _, written, read, ?_⟩
  decide +kernel

end MmoServer.Protocol
