import MmoServer.Lib.Fields
import MmoServer.Protocol.MessageLayout

set_option autoImplicit false

namespace MmoServer.Protocol

open Bytes
open Fields (Stands field field_length stands_append stands_number stands_same stands_start)

theorem put_nat_split (value : Nat) : putNat 4 value = putNat 2 (value / 65536) ++ putNat 2 value :=
  put_nat_append 2 2 value

theorem put_nat_word_inj (a b : Nat) (same : putNat 2 a = putNat 2 b) : a % 65536 = b % 65536 := by
  have values := congrArg getNat same
  rwa [get_put_nat, get_put_nat] at values

variable (data : Slice UInt8) (m : Message)

theorem read_field_ok (offset : Nat) (lengthText nameText : String) (text : List UInt8) (next : Nat) :
    readField data offset lengthText nameText = .ok (text, next) ↔
      text.length < 65536 ∧ Stands data.elems (field 2 text) offset next := by
  by_cases long : offset + 2 ≤ data.elems.length
  · have same : readField data offset lengthText nameText = Fields.readField 2 data offset nameText := by
      rw [readField, failWhen, if_neg (Nat.not_lt.mpr long), Slice.slice_within data _ _ (by omega) long, Fields.readField,
        Fields.numberAt, if_pos long]
      rfl
    rw [same]
    exact Fields.read_field_ok 2 data offset nameText text next
  · refine iff_of_false (fun accepted => ?_) fun read => ?_
    · rw [readField, failWhen, if_pos (Nat.not_le.mp long)] at accepted
      cases accepted
    · have length := read.2.next_eq
      have within := read.2.within
      rw [field_length] at length
      omega

structure HeaderRead (data : Slice UInt8) (m : Message) : Prop where
  version : data.elems[0]? = some m.version
  flags : data.elems[1]? = some m.flags
  serviceType : getNat ((data.elems.take 4).drop 2) = m.serviceType.toNat
  messageType : getNat ((data.elems.take 6).drop 4) = m.messageType.toNat
  sequenceID : getNat ((data.elems.take 10).drop 6) = m.sequenceID.toNat
  timestamp : getNat ((data.elems.take 18).drop 10) = m.timestamp.toNat
  payloadLength : getNat ((data.elems.take 22).drop 18) = m.payloadLength.toNat

theorem header_read_iff (long : 22 ≤ data.elems.length) :
    HeaderRead data m ↔ Stands data.elems (headBytes m ++ putNat 4 m.payloadLength.toNat) 0 22 := by
  have service := stands_number 2 data.elems 2 _ (by omega) m.serviceType.toNat_lt
  have kind := stands_number 2 data.elems 4 _ (by omega) m.messageType.toNat_lt
  have sequence := stands_number 4 data.elems 6 _ (by omega) m.sequenceID.toNat_lt
  have time := stands_number 8 data.elems 10 _ (by omega) m.timestamp.toNat_lt
  have size := stands_number 4 data.elems 18 _ (by omega) m.payloadLength.toNat_lt
  simp only [headBytes, stands_append]
  constructor
  · intro read
    have front : data.elems.take 2 = [m.version, m.flags] := by
      rw [List.take_add_one, List.take_add_one, read.version, read.flags]
      rfl
    exact ⟨18, ⟨10, ⟨6, ⟨4, ⟨2, ⟨rfl, by omega, front⟩, service.mp read.serviceType⟩, kind.mp read.messageType⟩,
      sequence.mp read.sequenceID⟩, time.mp read.timestamp⟩, size.mp read.payloadLength⟩
  · rintro ⟨_, ⟨_, ⟨_, ⟨_, ⟨_, two, four⟩, six⟩, ten⟩, eighteen⟩, all⟩
    cases two.next_eq
    cases four.next_eq
    cases six.next_eq
    cases ten.next_eq
    cases eighteen.next_eq
    have front : data.elems.take 2 = [m.version, m.flags] := two.parts
    have cell : ∀ i < 2, data.elems[i]? = [m.version, m.flags][i]? := by
      intro i bound
      rw [← front, List.getElem?_take_of_lt bound]
    exact ⟨cell 0 (by omega), cell 1 (by omega), service.mpr four, kind.mpr six, sequence.mpr ten, time.mpr eighteen, size.mpr all⟩

-- The messages Decode can return. The length of the source service name is
-- the low half of the payload length, because both are read from bytes 20, 21.
structure Message.WellFramed (m : Message) : Prop where
  version : m.version = protocolVersion
  payload : m.payload.length = m.payloadLength.toNat
  overlap : m.payloadLength.toNat % 65536 = m.sourceService.length
  destination : m.destinationService.length < 65536
  correlation : m.correlationID.length < 65536
  session : m.sessionID.length < 65536

-- What Decode has read, field by field, with the places between the fields.
structure Decoded (data : Slice UInt8) (m : Message) (consumed : Nat) : Prop where
  long : 22 ≤ data.elems.length
  header : HeaderRead data m
  version : m.version = protocolVersion
  source : m.sourceService.length < 65536
  destination : m.destinationService.length < 65536
  correlation : m.correlationID.length < 65536
  session : m.sessionID.length < 65536
  payload : m.payload.length = m.payloadLength.toNat
  stands : Stands data.elems (field 2 m.sourceService ++ field 2 m.destinationService ++ field 2 m.correlationID ++
    field 2 m.sessionID ++ m.payload) 20 consumed

theorem decode_consumed_decoded (consumed : Nat) (accepted : decodeConsumed data = .ok (m, consumed)) : Decoded data m consumed := by
  simp only [decodeConsumed, bind_ok, fail_when_ok, Slice.index_ok, Nat.not_lt, not_not, Prod.exists, read_field_ok, headerSize]
    at accepted
  obtain ⟨_, _, version, versionRead, flags, flagsRead, service, serviceRead, kind, kindRead, sequence, sequenceRead,
    time, timeRead, size, sizeRead, _, versionOk, source, afterSource, ⟨sourceShort, sourceAt⟩, destination, afterDestination,
    ⟨destinationShort, destinationAt⟩, correlation, afterCorrelation, ⟨correlationShort, correlationAt⟩, session, afterSession,
    ⟨sessionShort, sessionAt⟩, _, payloadLong, payload, payloadRead, result⟩ := accepted
  have long : 22 ≤ data.elems.length := by
    have sourceEnd := sourceAt.next_eq
    have within := sourceAt.within
    rw [field_length] at sourceEnd
    omega
  rw [Slice.slice_within data _ _ (by omega) (by omega)] at serviceRead kindRead sequenceRead timeRead sizeRead payloadRead
  cases serviceRead
  cases kindRead
  cases sequenceRead
  cases timeRead
  cases sizeRead
  have payloadTake := Except.ok.inj payloadRead
  have payloadSize := piece_length data.elems afterSession _ payloadLong
  rw [payloadTake, Nat.add_sub_cancel_left] at payloadSize
  cases result
  refine ⟨long, ⟨versionRead, flagsRead, ?_, ?_, ?_, ?_, ?_⟩, versionOk, sourceShort, destinationShort, correlationShort,
    sessionShort, payloadSize, ?_⟩
  · exact (UInt16.toNat_ofNat_of_lt' (piece_lt data.elems 2 2 (by omega))).symm
  · exact (UInt16.toNat_ofNat_of_lt' (piece_lt data.elems 4 2 (by omega))).symm
  · exact (UInt32.toNat_ofNat_of_lt' (piece_lt data.elems 6 4 (by omega))).symm
  · exact (UInt64.toNat_ofNat_of_lt' (piece_lt data.elems 10 8 (by omega))).symm
  · exact (UInt32.toNat_ofNat_of_lt' (piece_lt data.elems 18 4 (by omega))).symm
  · simp only [stands_append]
    refine ⟨_, ⟨_, ⟨_, ⟨_, sourceAt, destinationAt⟩, correlationAt⟩, sessionAt⟩, by rw [payloadSize], payloadLong, ?_⟩
    rw [take_piece data.elems afterSession _ (by omega), payloadTake]

theorem decoded_consumed (consumed : Nat) (decoded : Decoded data m consumed) : decodeConsumed data = .ok (m, consumed) := by
  have long := decoded.long
  have header := decoded.header
  have stands := decoded.stands
  simp only [stands_append] at stands
  obtain ⟨_, ⟨_, ⟨_, ⟨_, sourceAt, destinationAt⟩, correlationAt⟩, sessionAt⟩, rfl, within, payloadTake⟩ := stands
  simp only [decodeConsumed, bind_ok, fail_when_ok, Slice.index_ok, Prod.exists, read_field_ok]
  refine ⟨(), by rw [headerSize]; omega, m.version, header.version, m.flags, header.flags, _,
    Slice.slice_within data 2 4 (by omega) (by omega), _, Slice.slice_within data 4 6 (by omega) (by omega), _,
    Slice.slice_within data 6 10 (by omega) (by omega), _, Slice.slice_within data 10 18 (by omega) (by omega), _,
    Slice.slice_within data 18 22 (by omega) (by omega), (), by simp [decoded.version], _, _, ⟨decoded.source, sourceAt⟩, _, _,
    ⟨decoded.destination, destinationAt⟩, _, _, ⟨decoded.correlation, correlationAt⟩, _, _, ⟨decoded.session, sessionAt⟩, (), ?_,
    m.payload, ?_, ?_⟩
  · rw [header.payloadLength, UInt32.ofNat_toNat, ← decoded.payload]
    omega
  · have start := sessionAt.within
    rw [header.payloadLength, UInt32.ofNat_toNat, ← decoded.payload, Slice.slice_within data _ _ (by omega) within,
      piece_eq data.elems _ _ _ start payloadTake]
  · rw [header.serviceType, header.messageType, header.sequenceID, header.timestamp, header.payloadLength,
      UInt16.ofNat_toNat, UInt16.ofNat_toNat, UInt32.ofNat_toNat, UInt64.ofNat_toNat, UInt32.ofNat_toNat, ← decoded.payload]
    rfl

theorem wire_fields (sourceShort : m.sourceService.length < 65536) (destination : m.destinationService.length < 65536)
    (correlation : m.correlationID.length < 65536) (session : m.sessionID.length < 65536) :
    m.wire = headBytes m ++ putNat 2 (m.payloadLength.toNat / 65536) ++ (field 2 m.sourceService ++ field 2 m.destinationService ++
      field 2 m.correlationID ++ field 2 m.sessionID ++ m.payload) := by
  simp only [Message.wire, field_bytes_short, sourceShort, destination, correlation, session, field, List.append_assoc]

theorem source_length (consumed : Nat) (stands : Stands data.elems (field 2 m.sourceService ++ field 2 m.destinationService ++
      field 2 m.correlationID ++ field 2 m.sessionID ++ m.payload) 20 consumed) :
    Stands data.elems (putNat 2 m.sourceService.length) 20 22 := by
  simp only [stands_append, field] at stands
  obtain ⟨_, ⟨_, ⟨_, ⟨_, ⟨_, length, _⟩, _⟩, _⟩, _⟩, _⟩ := stands
  cases length.next_eq
  rwa [put_nat_length] at length

theorem decoded_overlap (consumed : Nat) (decoded : Decoded data m consumed) :
    Stands data.elems (headBytes m ++ putNat 2 (m.payloadLength.toNat / 65536)) 0 20 ∧
      m.payloadLength.toNat % 65536 = m.sourceService.length := by
  have head := (header_read_iff data m decoded.long).mp decoded.header
  rw [put_nat_split, ← List.append_assoc, stands_append] at head
  obtain ⟨middle, front, low⟩ := head
  obtain rfl : middle = 20 := by simpa using front.next_eq
  have same := put_nat_word_inj _ _ (stands_same data.elems _ _ 20 22 low (source_length data m consumed decoded.stands))
  exact ⟨front, by rw [same, Nat.mod_eq_of_lt decoded.source]⟩

theorem decode_consumed_ok (consumed : Nat) :
    decodeConsumed data = .ok (m, consumed) ↔
      m.WellFramed ∧ consumed = m.wire.length ∧ data.elems.take consumed = m.wire := by
  rw [← stands_start]
  constructor
  · intro accepted
    have decoded := decode_consumed_decoded data m consumed accepted
    obtain ⟨front, overlap⟩ := decoded_overlap data m consumed decoded
    refine ⟨⟨decoded.version, decoded.payload, overlap, decoded.destination, decoded.correlation, decoded.session⟩, ?_⟩
    rw [wire_fields m decoded.source decoded.destination decoded.correlation decoded.session, stands_append]
    exact ⟨20, front, decoded.stands⟩
  · rintro ⟨framed, stands⟩
    have source : m.sourceService.length < 65536 := by have overlap := framed.overlap; omega
    rw [wire_fields m source framed.destination framed.correlation framed.session, stands_append] at stands
    obtain ⟨middle, front, later⟩ := stands
    obtain rfl : middle = 20 := by simpa using front.next_eq
    have low : Stands data.elems (putNat 2 m.payloadLength.toNat) 20 22 := by
      have length := source_length data m consumed later
      rwa [← framed.overlap, put_nat_word] at length
    have long := low.within
    refine decoded_consumed data m consumed ⟨long, (header_read_iff data m long).mpr ?_, framed.version, source,
      framed.destination, framed.correlation, framed.session, framed.payload, later⟩
    rw [put_nat_split, ← List.append_assoc, stands_append]
    exact ⟨20, front, low⟩

end MmoServer.Protocol
