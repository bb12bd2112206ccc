import MmoServer.Protocol.Converter

set_option autoImplicit false

namespace MmoServer.Protocol

open Bytes JsonText

section Binary

theorem internal_to_binary (m : Message) :
    internalToBinary m = [m.flags] ++ putNat 2 m.serviceType.toNat ++ putNat 2 m.messageType.toNat ++ m.payload := by
  have flagged : writeAt (List.replicate (5 + m.payload.length) 0) 0 [m.flags] =
      [m.flags] ++ List.replicate (4 + m.payload.length) 0 := by
    have next := write_at_next [] (List.replicate (5 + m.payload.length) 0) [m.flags] 0 rfl
    rw [List.nil_append, List.nil_append, List.drop_replicate] at next
    rw [next]
    congr 2
    simp only [List.length_singleton]
    omega
  simp only [internalToBinary, flagged]
  rw [write_at_next [m.flags] _ _ 1 rfl, write_at_next _ _ _ 3 (by simp), put_nat_length, put_nat_length, List.drop_replicate,
    List.drop_replicate, copy_into_rest _ _ m.payload 5 (by simp) (by simp; omega)]

theorem put_word (value : Nat) : putNat 2 value = [UInt8.ofNat (value / 256), UInt8.ofNat value] := rfl

theorem word_round_trip (value : UInt16) : UInt16.ofNat (getNat (putNat 2 value.toNat)) = value := by
  have small : value.toNat % 256 ^ 2 = value.toNat := Nat.mod_eq_of_lt value.toNat_lt
  rw [get_put_nat, small, UInt16.ofNat_toNat]

theorem bytes_round_trip (first second : UInt8) : putNat 2 (UInt16.ofNat (getNat [first, second])).toNat = [first, second] := by
  have small : (UInt16.ofNat (getNat [first, second])).toNat = getNat [first, second] := by
    have bound := get_nat_lt [first, second]
    norm_num at bound
    rw [UInt16.toNat_ofNat']
    exact Nat.mod_eq_of_lt bound
  rw [small]
  exact put_get_nat [first, second]

theorem binary_to_internal (now : UInt64) (m : Message) :
    binaryToInternal now (internalToBinary m) =
      .ok { newMessage now m.serviceType m.messageType m.payload with flags := m.flags } := by
  have service := word_round_trip m.serviceType
  have message := word_round_trip m.messageType
  rw [put_word] at service message
  rw [internal_to_binary, put_word, put_word]
  simp only [List.cons_append, List.nil_append, binaryToInternal, service, message]

theorem binary_refused_iff (now : UInt64) (rawData : List UInt8) :
    (∃ err, binaryToInternal now rawData = .error err) ↔ rawData.length < 5 := by
  rcases rawData with _ | ⟨flag, _ | ⟨s, _ | ⟨s', _ | ⟨m, _ | ⟨m', payload⟩⟩⟩⟩⟩ <;> simp [binaryToInternal]

theorem binary_back (now : UInt64) (rawData : List UInt8) (m : Message) (read : binaryToInternal now rawData = .ok m) :
    internalToBinary m = rawData := by
  rcases rawData with _ | ⟨flag, _ | ⟨s, _ | ⟨s', _ | ⟨k, _ | ⟨k', payload⟩⟩⟩⟩⟩
  case cons.cons.cons.cons.cons =>
    cases read
    rw [internal_to_binary]
    simp only [newMessage, bytes_round_trip]
    rfl
  all_goals cases read

end Binary

section Splitting

theorem split_first (first rest : List UInt8) (separator : UInt8) (free : ∀ byte ∈ first, byte ≠ separator) :
    (first ++ separator :: rest).splitOn separator = first :: rest.splitOn separator := by
  rw [List.splitOn, List.splitOnP_append_cons_of_forall_mem _ separator (by simp)]
  · rfl
  · intro byte member
    simpa using free byte member

theorem split_whole (bytes : List UInt8) (separator : UInt8) (free : ∀ byte ∈ bytes, byte ≠ separator) :
    bytes.splitOn separator = [bytes] := by
  rw [List.splitOn, List.splitOnP_eq_singleton]
  intro byte member
  simpa using free byte member

end Splitting

variable (env : ConverterEnv)

theorem binary_frames_lossless (now : UInt64) (first second : ConnectionType) (firstKnown : first = .webSocket ∨ first = .quic)
    (secondKnown : second = .webSocket ∨ second = .quic) :
    (∀ m : OutMessage, ∃ rawData read, fromInternal env first .binary m = .ok rawData ∧
      toInternal env now second .binary rawData = .ok read ∧ read.flags = m.flags ∧ read.serviceType = m.serviceType ∧
      read.messageType = m.messageType ∧ read.payload = m.payload ∧ read.payloadLength.toNat = m.payload.length % 2 ^ 32) ∧
    ∀ rawData, ((∃ err, toInternal env now first .binary rawData = .error err) ↔ rawData.length < 5) ∧
      ∀ m, toInternal env now first .binary rawData = .ok m → fromInternal env second .binary m.out = .ok rawData := by
  have reads : ∀ connType, connType = .webSocket ∨ connType = .quic → ∀ rawData,
      toInternal env now connType .binary rawData = binaryToInternal now rawData := by
    rintro _ (rfl | rfl) rawData <;> rfl
  have writes : ∀ connType, connType = .webSocket ∨ connType = .quic → ∀ m : OutMessage,
      fromInternal env connType .binary m = .ok (internalToBinary m.toMessage) := by
    rintro _ (rfl | rfl) m <;> rfl
  refine ⟨fun m => ?_, fun rawData => ⟨?_, fun m read => ?_⟩⟩
  · refine ⟨_, _, writes first firstKnown m, (reads second secondKnown _).trans (binary_to_internal now m.toMessage), ?_⟩
    exact ⟨rfl, rfl, rfl, rfl, UInt32.toNat_ofNat'⟩
  · rw [reads first firstKnown]
    exact binary_refused_iff now rawData
  · rw [reads first firstKnown] at read
    rw [writes second secondKnown, Message.out, binary_back now rawData m read]

def plainEnv : ConverterEnv := ⟨some, fun _ => .error "no codec", fun _ => .error "no codec"⟩

def said (payload : String) : OutMessage := { newMessage 0 2 1 (Json.utf8 payload) with sessionID := Json.utf8 "s1" }.out

theorem web_socket_frame_read_by_quic :
    (∃ rawData read, fromInternal plainEnv .webSocket .binary (said "hi") = .ok rawData ∧
      toInternal plainEnv 0 .quic .binary rawData = .ok read ∧ read.payload = Json.utf8 "hi") ∧
    ∃ err, toInternal plainEnv 0 .webSocket .binary [0, 0, 2, 0] = .error err := by
  obtain ⟨across, back⟩ := binary_frames_lossless plainEnv 0 .webSocket .quic (.inl rfl) (.inr rfl)
  obtain ⟨rawData, read, sent, converted, _, _, _, payload, _⟩ := across (said "hi")
  exact ⟨⟨rawData, read, sent, converted, payload⟩, (back [0, 0, 2, 0]).1.mpr (by decide)⟩

end MmoServer.Protocol
