import MmoServer.Protocol.MessageRoundTrip

set_option autoImplicit false

namespace MmoServer.Protocol

open Bytes

section DecodeBounds

variable (elems : List UInt8)

theorem inside_read_field (offset : Nat) (lengthText nameText : String) :
    Inside elems fun data => readField data offset lengthText nameText := by
  unfold readField
  refine inside_bind elems _ _ (inside_fail_when elems (fun elems => elems.length < offset + 2) lengthText) fun _ long => ?_
  rw [fail_when_ok, Nat.not_lt] at long
  refine inside_bind elems _ _ (inside_slice elems offset (offset + 2) (by omega) long) fun bytes _ => ?_
  refine inside_bind elems _ _
    (inside_fail_when elems (fun elems => elems.length < offset + 2 + getNat bytes) nameText) fun _ whole => ?_
  rw [fail_when_ok, Nat.not_lt] at whole
  refine inside_bind elems _ _ (inside_slice elems (offset + 2) _ (by omega) whole) fun text _ => ?_
  exact inside_ok elems (text, offset + 2 + getNat bytes)

theorem decode_consumed_inside (clear : elems.length < 20 ∨ 22 ≤ elems.length) : Inside elems decodeConsumed := by
  unfold decodeConsumed
  refine inside_bind elems _ _ (inside_fail_when elems (fun elems => elems.length < headerSize) _) fun _ header => ?_
  have reached : ¬ elems.length < 20 := (fail_when_ok _ _ _).mp header
  have long : 22 ≤ elems.length := by omega
  refine inside_bind elems _ _ (inside_index elems 0 (by omega)) fun version _ => ?_
  refine inside_bind elems _ _ (inside_index elems 1 (by omega)) fun flags _ => ?_
  refine inside_bind elems _ _ (inside_slice elems 2 4 (by omega) (by omega)) fun service _ => ?_
  refine inside_bind elems _ _ (inside_slice elems 4 6 (by omega) (by omega)) fun kind _ => ?_
  refine inside_bind elems _ _ (inside_slice elems 6 10 (by omega) (by omega)) fun sequence _ => ?_
  refine inside_bind elems _ _ (inside_slice elems 10 18 (by omega) (by omega)) fun time _ => ?_
  refine inside_bind elems _ _ (inside_slice elems 18 22 (by omega) (by omega)) fun size _ => ?_
  refine inside_bind elems _ _ (inside_fail_when elems (fun _ => version ≠ protocolVersion) _) fun _ _ => ?_
  refine inside_bind elems _ _ (inside_read_field elems headerSize _ _) fun source _ => ?_
  refine inside_bind elems _ _ (inside_read_field elems source.2 _ _) fun destination _ => ?_
  refine inside_bind elems _ _ (inside_read_field elems destination.2 _ _) fun correlation _ => ?_
  refine inside_bind elems _ _ (inside_read_field elems correlation.2 _ _) fun session _ => ?_
  refine inside_bind elems _ _ (inside_fail_when elems
    (fun elems => elems.length < session.2 + (UInt32.ofNat (getNat size)).toNat) _) fun _ payload => ?_
  rw [fail_when_ok, Nat.not_lt] at payload
  refine inside_bind elems _ _ (inside_slice elems session.2 _ (by omega) payload) fun _ _ => ?_
  exact inside_ok elems _

theorem decode_cut_short (cut : elems.length = 20 ∨ elems.length = 21) : decode ⟨elems, []⟩ = .error .outOfRange := by
  have index (i : Nat) (within : i < 20) : (⟨elems, []⟩ : Slice UInt8).index i = .ok (elems.getD i 0) := by
    rw [Slice.index_ok, List.getD_eq_getElem?_getD, List.getElem?_eq_getElem (by dsimp only; omega)]
    rfl
  have slice (low high : Nat) (ordered : low ≤ high) (within : high ≤ 20) :
      (⟨elems, []⟩ : Slice UInt8).slice low high = .ok ((elems.take high).drop low) :=
    Slice.slice_within ⟨elems, []⟩ low high ordered (by dsimp only; omega)
  have behind : (⟨elems, []⟩ : Slice UInt8).slice 18 22 = .error .outOfRange := by
    rw [Slice.slice, if_neg]
    simp only [List.append_nil]
    omega
  have passed : failWhen (elems.length < headerSize) "data too short for message header" = .ok () :=
    (fail_when_ok _ _ _).mpr (by rw [headerSize]; omega)
  have read : decodeConsumed ⟨elems, []⟩ = .error .outOfRange := by
    unfold decodeConsumed
    rw [passed, index 0 (by omega), index 1 (by omega), slice 2 4 (by omega) (by omega), slice 4 6 (by omega) (by omega),
      slice 6 10 (by omega) (by omega), slice 10 18 (by omega) (by omega), behind]
    rfl
  rw [decode, read]
  rfl

theorem decode_inside_iff : Inside elems decode ↔ elems.length ≠ 20 ∧ elems.length ≠ 21 := by
  constructor
  · intro inside
    by_contra cut
    exact inside.1 (decode_cut_short elems (by omega))
  · intro clear
    exact inside_map elems decodeConsumed Prod.fst (decode_consumed_inside elems (by omega))

end DecodeBounds

def bareHeader : List UInt8 := [1, 0, 0, 2, 0, 7, 0, 0, 0, 9, 0, 0, 0, 0, 0, 0, 0, 11, 0, 0]

theorem bare_header_leaves_data :
    bareHeader.length = headerSize ∧ decode ⟨bareHeader, []⟩ = .error .outOfRange ∧ ¬ Inside bareHeader decode := by
  have panics : decode ⟨bareHeader, []⟩ = .error .outOfRange := by decide
  exact ⟨rfl, panics, fun inside => inside.1 panics⟩

section EncodeKeeps

def readString (bytes : List UInt8) : Option (List UInt8 × List UInt8) :=
  let size := getNat (bytes.take 2)
  if bytes.length < 2 + size then none else some ((bytes.drop 2).take size, bytes.drop (2 + size))

structure Fields where
  sourceService : List UInt8
  destinationService : List UInt8
  correlationID : List UInt8
  sessionID : List UInt8
  payload : List UInt8
deriving DecidableEq, Repr

def readFields (bytes : List UInt8) : Option Fields := do
  let (sourceService, bytes) ← readString bytes
  let (destinationService, bytes) ← readString bytes
  let (correlationID, bytes) ← readString bytes
  let (sessionID, payload) ← readString bytes
  return { sourceService, destinationService, correlationID, sessionID, payload }

def Message.fields (m : Message) : Fields where
  sourceService := m.sourceService
  destinationService := m.destinationService
  correlationID := m.correlationID
  sessionID := m.sessionID
  payload := m.payload

def Message.KeptBy (m : Message) (bytes : List UInt8) : Prop := readFields (bytes.drop headerSize) = some m.fields

def narrowed (text : List UInt8) : List UInt8 := text.take (text.length % 65536)

theorem narrowed_eq_iff (text : List UInt8) : narrowed text = text ↔ text.length < 65536 := by
  rw [narrowed, List.take_eq_self_iff]
  omega

theorem read_string_field (text rest : List UInt8) : readString (fieldBytes text ++ rest) = some (narrowed text, rest) := by
  have size : getNat ((fieldBytes text ++ rest).take 2) = text.length % 65536 := by
    rw [fieldBytes, List.append_assoc, List.take_left' (by simp), get_put_nat]
    rfl
  have start : (fieldBytes text ++ rest).drop 2 = narrowed text ++ rest := by
    rw [fieldBytes, List.append_assoc, List.drop_left' (by simp)]
    rfl
  have length : (narrowed text).length = text.length % 65536 := by simp [narrowed, Nat.mod_le]
  rw [readString, size, ← List.drop_drop, start, if_neg (by simp), List.take_left' length, List.drop_left' length]

theorem read_fields_wire (m : Message) :
    readFields (m.wire.drop headerSize) =
      some { m.fields with
        sourceService := narrowed m.sourceService
        destinationService := narrowed m.destinationService
        correlationID := narrowed m.correlationID
        sessionID := narrowed m.sessionID } := by
  have start : (headBytes m ++ putNat 2 (m.payloadLength.toNat / 65536)).length = headerSize := by simp [headerSize]
  simp only [Message.wire, List.append_assoc]
  rw [← List.append_assoc, List.drop_left' start]
  simp only [readFields, read_string_field, Option.bind_eq_bind, Option.bind_some]
  rfl

theorem encode_ok (m : Message) (bytes : List UInt8) (encoded : m.encode = .ok bytes) :
    bytes = m.wire ∧ m.sourceService.length ≤ maxServiceNameSize ∧ m.destinationService.length ≤ maxServiceNameSize := by
  by_cases payload : m.payload.length > maxPayloadSize
  · rw [Message.encode, if_pos payload] at encoded
    cases encoded
  by_cases source : m.sourceService.length > maxServiceNameSize
  · rw [Message.encode, if_neg payload, if_pos source] at encoded
    cases encoded
  by_cases destination : m.destinationService.length > maxServiceNameSize
  · rw [Message.encode, if_neg payload, if_neg source, if_pos destination] at encoded
    cases encoded
  have fits := encode_layout m (Nat.not_lt.mp payload) (Nat.not_lt.mp source) (Nat.not_lt.mp destination)
  exact ⟨Except.ok.inj (encoded.symm.trans fits), Nat.not_lt.mp source, Nat.not_lt.mp destination⟩

-- The two IDs have no limit of their own, and only their last 16 bits of length are kept.
theorem encode_keeps_fields_iff (m : Message) (bytes : List UInt8) (encoded : m.encode = .ok bytes) :
    m.KeptBy bytes ↔ m.correlationID.length < 65536 ∧ m.sessionID.length < 65536 := by
  obtain ⟨rfl, source, destination⟩ := encode_ok m bytes encoded
  rw [maxServiceNameSize] at source destination
  rw [Message.KeptBy, read_fields_wire, (narrowed_eq_iff m.sourceService).mpr (by omega),
    (narrowed_eq_iff m.destinationService).mpr (by omega), ← narrowed_eq_iff, ← narrowed_eq_iff]
  simp [Message.fields]

end EncodeKeeps

theorem hello_fields_kept : helloMessage.encode = .ok helloMessage.wire ∧ helloMessage.KeptBy helloMessage.wire := by
  have encoded : helloMessage.encode = .ok helloMessage.wire := encode_layout helloMessage (by decide) (by decide) (by decide)
  exact ⟨encoded, (encode_keeps_fields_iff helloMessage _ encoded).mpr (by decide)⟩

def longCorrelation : Message := { helloMessage with correlationID := List.replicate 65536 99 }

theorem long_correlation_lost :
    longCorrelation.encode = .ok longCorrelation.wire ∧
      readFields (longCorrelation.wire.drop headerSize) = some { longCorrelation.fields with correlationID := [] } ∧
      ¬ longCorrelation.KeptBy longCorrelation.wire := by
  have size : longCorrelation.correlationID.length = 65536 := List.length_replicate
  have lost : narrowed longCorrelation.correlationID = [] := by rw [narrowed, size, Nat.mod_self, List.take_zero]
  have read : readFields (longCorrelation.wire.drop headerSize) = some { longCorrelation.fields with correlationID := [] } := by
    rw [read_fields_wire, lost]
    rfl
  refine ⟨encode_layout longCorrelation (by decide) (by decide) (by decide), read, ?_⟩
  intro kept
  have same : [] = longCorrelation.correlationID := congrArg Fields.correlationID (Option.some.inj (read.symm.trans kept))
  rw [← same] at size
  cases size

end MmoServer.Protocol
