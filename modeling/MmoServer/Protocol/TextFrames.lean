import MmoServer.Lib.Decimal
import MmoServer.Protocol.Frames

set_option autoImplicit false

namespace MmoServer.Protocol

open Json JsonText

theorem parse_uint16_text (value : UInt16) : parseUint16 (Decimal.text value.toNat) = .ok value := by
  obtain ⟨first, rest, written, read⟩ := Decimal.text_digits value.toNat
  have digits := read_digits (first :: rest) [] [] (by simp [Stops])
  rw [List.append_nil, ← written] at digits
  simp only [parseUint16, digits, read]
  rw [if_pos value.toNat_lt, UInt16.ofNat_toNat]

theorem number_free (value : UInt16) : ∀ byte ∈ Decimal.text value.toNat, byte ≠ 58 := by
  rintro byte member rfl
  have bounds := Decimal.text_bytes value.toNat 58 member
  exact absurd bounds.2 (by decide)

theorem internal_to_text (m : Message) :
    internalToText m = Decimal.text m.serviceType.toNat ++ 58 :: (Decimal.text m.messageType.toNat ++ 58 :: Base64.encodeBytes m.payload) := by
  have colon : utf8 ":" = [58] := by decide
  rw [internalToText, utf8_append, utf8_append, utf8_append, utf8_append, colon, utf8_base64, Decimal.text, Decimal.text]
  simp only [List.append_assoc, List.cons_append, List.nil_append]

theorem split_text (m : Message) :
    (internalToText m).splitOn 58 =
      [Decimal.text m.serviceType.toNat, Decimal.text m.messageType.toNat, Base64.encodeBytes m.payload] := by
  rw [internal_to_text, split_first _ _ 58 (number_free m.serviceType), split_first _ _ 58 (number_free m.messageType),
    split_whole _ 58 (Base64.encode_bytes_free m.payload)]

theorem text_to_internal (now : UInt64) (m : Message) :
    textToInternal now (internalToText m) = .ok (newMessage now m.serviceType m.messageType m.payload) := by
  rw [textToInternal, split_text]
  simp only [parse_uint16_text, Base64.decode_encode]

theorem text_frames_round_trip (env : ConverterEnv) (now : UInt64) (m : OutMessage) :
    ∃ text read, fromInternal env .quic .text m = .ok text ∧ (text.splitOn 58).length = 3 ∧
      toInternal env now .quic .text text = .ok read ∧ read.serviceType = m.serviceType ∧ read.messageType = m.messageType ∧
      read.payload = m.payload := by
  refine ⟨internalToText m.toMessage, _, rfl, ?_, text_to_internal now m.toMessage, rfl, rfl, rfl⟩
  rw [split_text]
  rfl

example : internalToText (newMessage 0 65535 0 [77, 97, 110, 33]) = utf8 "65535:0:TWFuIQ==" := by decide +kernel

end MmoServer.Protocol
