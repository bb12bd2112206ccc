import MmoServer.Protocol.MessageDecode

set_option autoImplicit false

namespace MmoServer.Protocol

open Bytes

structure Message.WithinLimits (m : Message) : Prop where
  version : m.version = protocolVersion
  payloadLength : m.payloadLength.toNat = m.payload.length
  source : m.sourceService.length ≤ maxServiceNameSize
  destination : m.destinationService.length ≤ maxServiceNameSize
  correlation : m.correlationID.length ≤ 65535
  session : m.sessionID.length ≤ 65535
  payload : m.payload.length ≤ maxPayloadSize

def Message.RoundTrips (m : Message) : Prop :=
  ∃ bytes, m.encode = .ok bytes ∧ ∀ spare, decode ⟨bytes, spare⟩ = .ok m

theorem decode_ok (data : Slice UInt8) (m : Message) :
    decode data = .ok m ↔ ∃ consumed, decodeConsumed data = .ok (m, consumed) := by
  cases result : decodeConsumed data with
  | error fault => simp [decode, result, Functor.map, Except.map]
  | ok pair =>
    obtain ⟨message, consumed⟩ := pair
    simp [decode, result, Functor.map, Except.map]

theorem decode_wire (m : Message) (spare : List UInt8) : decode ⟨m.wire, spare⟩ = .ok m ↔ m.WellFramed := by
  simp [decode_ok, decode_consumed_ok]

theorem round_trip_iff_low_half (m : Message) (limits : m.WithinLimits) :
    m.RoundTrips ↔ m.payload.length % 65536 = m.sourceService.length := by
  have encoded := encode_layout m limits.payload limits.source limits.destination
  constructor
  · rintro ⟨bytes, produced, back⟩
    rw [encoded] at produced
    cases produced
    have framed := (decode_wire m []).mp (back [])
    rw [← limits.payloadLength, framed.overlap]
  · intro low
    refine ⟨m.wire, encoded, fun spare => (decode_wire m spare).mpr ?_⟩
    have destination := limits.destination
    have correlation := limits.correlation
    have session := limits.session
    rw [maxServiceNameSize] at destination
    exact ⟨limits.version, limits.payloadLength.symm, by rw [limits.payloadLength, low], by omega, by omega, by omega⟩

def helloMessage : Message :=
  { version := 1, flags := 0, serviceType := 2, messageType := 7, sequenceID := 9, timestamp := 11, payloadLength := 2,
    sourceService := [103, 119], destinationService := [99], correlationID := [], sessionID := [115, 49],
    payload := [104, 105] }

theorem hello_round_trips : helloMessage.WithinLimits ∧ helloMessage.RoundTrips := by
  have limits : helloMessage.WithinLimits := ⟨rfl, rfl, by decide, by decide, by decide, by decide, by decide⟩
  exact ⟨limits, (round_trip_iff_low_half helloMessage limits).mpr rfl⟩

def anonymousMessage : Message := { helloMessage with sourceService := [] }

theorem anonymous_payload_dropped :
    anonymousMessage.WithinLimits ∧
      (∃ bytes, anonymousMessage.encode = .ok bytes ∧
        decode ⟨bytes, []⟩ = .ok { anonymousMessage with payloadLength := 0, payload := [] }) ∧
      ¬ anonymousMessage.RoundTrips := by
  have produced : anonymousMessage.encode = .ok anonymousMessage.wire :=
    encode_layout anonymousMessage (by decide) (by decide) (by decide)
  have read : decode ⟨anonymousMessage.wire, []⟩ = .ok { anonymousMessage with payloadLength := 0, payload := [] } := by
    decide
  refine ⟨⟨rfl, rfl, by decide, by decide, by decide, by decide, by decide⟩, ⟨_, produced, read⟩, ?_⟩
  rintro ⟨bytes, encoded, back⟩
  rw [produced] at encoded
  cases encoded
  have same := read.symm.trans (back [])
  revert same
  decide

theorem reencode_reproduces_consumed (data : Slice UInt8) (m : Message) (accepted : decode data = .ok m)
    (sourceFits : m.sourceService.length ≤ maxServiceNameSize)
    (destinationFits : m.destinationService.length ≤ maxServiceNameSize)
    (payloadFits : m.payload.length ≤ maxPayloadSize) :
    ∃ consumed, decodeConsumed data = .ok (m, consumed) ∧ m.encode = .ok (data.elems.take consumed) := by
  obtain ⟨consumed, read⟩ := (decode_ok data m).mp accepted
  have framing := (decode_consumed_ok data m consumed).mp read
  exact ⟨consumed, read, by rw [encode_layout m payloadFits sourceFits destinationFits, framing.2.2]⟩

theorem hello_reencoded :
    decode ⟨helloMessage.wire ++ [0, 0, 0], []⟩ = .ok helloMessage ∧
      ∃ consumed, decodeConsumed ⟨helloMessage.wire ++ [0, 0, 0], []⟩ = .ok (helloMessage, consumed) ∧
        helloMessage.encode = .ok ((helloMessage.wire ++ [0, 0, 0]).take consumed) := by
  have accepted : decode ⟨helloMessage.wire ++ [0, 0, 0], []⟩ = .ok helloMessage := by decide
  exact ⟨accepted, reencode_reproduces_consumed _ helloMessage accepted (by decide) (by decide) (by decide)⟩

end MmoServer.Protocol
