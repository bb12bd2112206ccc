import MmoServer.Protocol.Message

set_option autoImplicit false

namespace MmoServer.Protocol

open Bytes

def fieldBytes (text : List UInt8) : List UInt8 := putNat 2 text.length ++ text.take (text.length % 65536)

def headBytes (m : Message) : List UInt8 :=
  [m.version, m.flags] ++ putNat 2 m.serviceType.toNat ++ putNat 2 m.messageType.toNat ++
    putNat 4 m.sequenceID.toNat ++ putNat 8 m.timestamp.toNat

-- The buffer Encode returns. Of the payload length only the high half is
-- left: the length of the source service name stands where the low half was.
def Message.wire (m : Message) : List UInt8 :=
  headBytes m ++ putNat 2 (m.payloadLength.toNat / 65536) ++ fieldBytes m.sourceService ++
    fieldBytes m.destinationService ++ fieldBytes m.correlationID ++ fieldBytes m.sessionID ++ m.payload

@[simp] theorem head_bytes_length (m : Message) : (headBytes m).length = 18 := by simp [headBytes]

@[simp] theorem field_bytes_length (text : List UInt8) :
    (fieldBytes text).length = 2 + text.length % 65536 := by
  simp [fieldBytes, Nat.mod_le]

theorem field_bytes_short (text : List UInt8) (short : text.length < 65536) :
    fieldBytes text = putNat 2 text.length ++ text := by
  rw [fieldBytes, Nat.mod_eq_of_lt short, List.take_length]

theorem put_header_layout (m : Message) (buffer : List UInt8) :
    putHeader m buffer = headBytes m ++ putNat 4 m.payloadLength.toNat ++ buffer.drop 22 := by
  have first : writeAt buffer 0 [m.version] = [m.version] ++ buffer.drop 1 := by
    simpa using write_at_next [] buffer [m.version] 0 rfl
  simp only [putHeader, first]
  rw [write_at_next [m.version] _ _ 1 rfl, write_at_next _ _ _ 2 rfl, write_at_next _ _ _ 4 (by simp),
    write_at_next _ _ _ 6 (by simp), write_at_next _ _ _ 10 (by simp), write_at_next _ _ _ 18 (by simp)]
  simp [headBytes, List.drop_drop]

theorem put_nat_word (value : Nat) : putNat 2 (value % 65536) = putNat 2 value := by
  have same : UInt8.ofNat (value % 65536) = UInt8.ofNat value := by
    apply UInt8.toNat_inj.mp
    simp only [UInt8.toNat_ofNat']
    omega
  have high : UInt8.ofNat (value % 65536 / 256) = UInt8.ofNat (value / 256) := by
    apply UInt8.toNat_inj.mp
    simp only [UInt8.toNat_ofNat']
    omega
  simp [putNat, same, high]

theorem put_field_next (done rest text : List UInt8) (offset : Nat) (reached : done.length = offset) :
    putField (done ++ rest) offset (UInt16.ofNat text.length) text =
      (done ++ fieldBytes text ++ rest.drop (fieldBytes text).length, offset + (fieldBytes text).length) := by
  have size : (UInt16.ofNat text.length).toNat = text.length % 65536 := by simp
  have behind : (done ++ putNat 2 text.length).length = offset + 2 := by simp [reached]
  simp only [putField, size, put_nat_word]
  rw [write_at_next done rest _ offset reached, copy_into_next _ _ text (offset + 2) _ behind]
  simp [fieldBytes, List.drop_drop, Nat.mod_le, Nat.add_assoc]

theorem encode_layout (m : Message) (payloadFits : m.payload.length ≤ maxPayloadSize)
    (sourceFits : m.sourceService.length ≤ maxServiceNameSize)
    (destinationFits : m.destinationService.length ≤ maxServiceNameSize) : m.encode = .ok m.wire := by
  have low : putNat 4 m.payloadLength.toNat =
      putNat 2 (m.payloadLength.toNat / 65536) ++ putNat 2 m.payloadLength.toNat :=
    put_nat_append 2 2 m.payloadLength.toNat
  have start : (headBytes m ++ putNat 2 (m.payloadLength.toNat / 65536)).length = headerSize := by
    simp [headerSize]
  rw [Message.encode, if_neg (Nat.not_lt.mpr payloadFits), if_neg (Nat.not_lt.mpr sourceFits),
    if_neg (Nat.not_lt.mpr destinationFits)]
  simp only [put_header_layout, low]
  rw [← List.append_assoc (headBytes m), List.append_assoc _ (putNat 2 _) (List.drop _ _),
    put_field_next _ _ m.sourceService headerSize start]
  dsimp only
  rw [put_field_next _ _ m.destinationService _ (by simp only [List.length_append, start])]
  dsimp only
  rw [put_field_next _ _ m.correlationID _ (by simp only [List.length_append, start])]
  dsimp only
  rw [put_field_next _ _ m.sessionID _ (by simp only [List.length_append, start])]
  dsimp only
  rw [copy_into_rest _ _ m.payload _ (by simp only [List.length_append, start])]
  · simp [Message.wire]
  · simp [headerSize]
    omega

end MmoServer.Protocol
