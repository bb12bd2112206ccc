import MmoServer.Lib.Fields

set_option autoImplicit false

namespace MmoServer.Rpc

open Bytes Fields

structure ProtocolRPCRequest where
  serviceMethod : List UInt8
  sequence : UInt64
  argsData : List UInt8
deriving DecidableEq, Repr

structure ProtocolRPCResponse where
  serviceMethod : List UInt8
  sequence : UInt64
  error : List UInt8
  replyData : List UInt8
deriving DecidableEq, Repr

def sequenced (totalLen : Nat) (sequence : UInt64) : List UInt8 × Nat :=
  (writeAt (List.replicate totalLen 0) 0 (putNat 8 sequence.toNat), 8)

namespace ProtocolRPCRequest

def marshalBinary (r : ProtocolRPCRequest) : List UInt8 :=
  let result := sequenced (8 + 4 + r.serviceMethod.length + 4 + r.argsData.length) r.sequence
  let result := putField 4 result r.serviceMethod
  let result := putField 4 result r.argsData
  result.1

-- What the receiver holds in the end, and how far the data was read. All its fields are
-- overwritten.
def unmarshalBinary (r : ProtocolRPCRequest) (data : Slice UInt8) : Except Fault (ProtocolRPCRequest × Nat) := do
  failWhen (data.elems.length < 16) "invalid RPC request format: too short"
  let sequence ← numberAt data 0 8
  let (serviceMethod, offset) ← readField 4 data 8 "invalid RPC request format: service method length exceeds data"
  failWhen (data.elems.length < offset + 4) "invalid RPC request format: no args length"
  let (argsData, offset) ← readField 4 data offset "invalid RPC request format: args length exceeds data"
  return ({ r with sequence := UInt64.ofNat sequence, serviceMethod, argsData }, offset)

def Short (r : ProtocolRPCRequest) : Prop := r.serviceMethod.length < 2 ^ 32 ∧ r.argsData.length < 2 ^ 32

end ProtocolRPCRequest

namespace ProtocolRPCResponse

def marshalBinary (r : ProtocolRPCResponse) : List UInt8 :=
  let result := sequenced (8 + 4 + r.serviceMethod.length + 4 + r.error.length + 4 + r.replyData.length) r.sequence
  let result := putField 4 result r.serviceMethod
  let result := putField 4 result r.error
  let result := putField 4 result r.replyData
  result.1

def unmarshalBinary (r : ProtocolRPCResponse) (data : Slice UInt8) : Except Fault (ProtocolRPCResponse × Nat) := do
  failWhen (data.elems.length < 20) "invalid RPC response format: too short"
  let sequence ← numberAt data 0 8
  let (serviceMethod, offset) ← readField 4 data 8 "invalid RPC response format: service method length exceeds data"
  failWhen (data.elems.length < offset + 4) "invalid RPC response format: no error length"
  let (error, offset) ← readField 4 data offset "invalid RPC response format: error length exceeds data"
  failWhen (data.elems.length < offset + 4) "invalid RPC response format: no reply length"
  let (replyData, offset) ← readField 4 data offset "invalid RPC response format: reply length exceeds data"
  return ({ r with sequence := UInt64.ofNat sequence, serviceMethod, error, replyData }, offset)

def Short (r : ProtocolRPCResponse) : Prop :=
  r.serviceMethod.length < 2 ^ 32 ∧ r.error.length < 2 ^ 32 ∧ r.replyData.length < 2 ^ 32

end ProtocolRPCResponse

section Writing

theorem sequenced_eq (rest : Nat) (sequence : UInt64) :
    sequenced (8 + rest) sequence = (putNat 8 sequence.toNat ++ List.replicate rest 0, (putNat 8 sequence.toNat).length) := by
  have next := write_at_next [] (List.replicate (8 + rest) 0) (putNat 8 sequence.toNat) 0 rfl
  rw [List.nil_append, List.nil_append, put_nat_length, List.drop_replicate, Nat.add_sub_cancel_left] at next
  rw [sequenced, next, put_nat_length]

theorem request_bytes (r : ProtocolRPCRequest) :
    r.marshalBinary = putNat 8 r.sequence.toNat ++ field 4 r.serviceMethod ++ field 4 r.argsData := by
  have total : 8 + 4 + r.serviceMethod.length + 4 + r.argsData.length =
      8 + (4 + r.serviceMethod.length + (4 + r.argsData.length + 0)) := by omega
  simp only [ProtocolRPCRequest.marshalBinary]
  rw [total, sequenced_eq, put_field_next, put_field_next, List.replicate_zero, List.append_nil]

theorem response_bytes (r : ProtocolRPCResponse) :
    r.marshalBinary = putNat 8 r.sequence.toNat ++ field 4 r.serviceMethod ++ field 4 r.error ++ field 4 r.replyData := by
  have total : 8 + 4 + r.serviceMethod.length + 4 + r.error.length + 4 + r.replyData.length =
      8 + (4 + r.serviceMethod.length + (4 + r.error.length + (4 + r.replyData.length + 0))) := by omega
  simp only [ProtocolRPCResponse.marshalBinary]
  rw [total, sequenced_eq, put_field_next, put_field_next, put_field_next, List.replicate_zero, List.append_nil]

end Writing

section Reading

variable (elems : List UInt8)

theorem request_inside (r : ProtocolRPCRequest) : Inside elems r.unmarshalBinary := by
  unfold ProtocolRPCRequest.unmarshalBinary
  refine inside_bind elems _ _ (inside_fail_when elems (fun elems => elems.length < 16) _) fun _ header => ?_
  have long := Nat.not_lt.mp ((fail_when_ok _ _ _).mp header)
  dsimp only at long
  refine inside_bind elems _ _ (inside_number_at 8 elems 0 (by omega)) fun sequence _ => ?_
  refine inside_bind elems _ _ (inside_read_field 4 elems 8 _ (by omega)) fun serviceMethod _ => ?_
  refine inside_bind elems _ _ (inside_fail_when elems (fun elems => elems.length < serviceMethod.2 + 4) _) fun _ more => ?_
  rw [fail_when_ok, Nat.not_lt] at more
  refine inside_bind elems _ _ (inside_read_field 4 elems serviceMethod.2 _ more) fun argsData _ => ?_
  exact inside_ok elems _

theorem response_inside (r : ProtocolRPCResponse) : Inside elems r.unmarshalBinary := by
  unfold ProtocolRPCResponse.unmarshalBinary
  refine inside_bind elems _ _ (inside_fail_when elems (fun elems => elems.length < 20) _) fun _ header => ?_
  have long := Nat.not_lt.mp ((fail_when_ok _ _ _).mp header)
  dsimp only at long
  refine inside_bind elems _ _ (inside_number_at 8 elems 0 (by omega)) fun sequence _ => ?_
  refine inside_bind elems _ _ (inside_read_field 4 elems 8 _ (by omega)) fun serviceMethod _ => ?_
  refine inside_bind elems _ _ (inside_fail_when elems (fun elems => elems.length < serviceMethod.2 + 4) _) fun _ more => ?_
  rw [fail_when_ok, Nat.not_lt] at more
  refine inside_bind elems _ _ (inside_read_field 4 elems serviceMethod.2 _ more) fun error _ => ?_
  refine inside_bind elems _ _ (inside_fail_when elems (fun elems => elems.length < error.2 + 4) _) fun _ last => ?_
  rw [fail_when_ok, Nat.not_lt] at last
  refine inside_bind elems _ _ (inside_read_field 4 elems error.2 _ last) fun replyData _ => ?_
  exact inside_ok elems _

theorem sequence_number (sequence : UInt64) (number : Nat) (small : number < 256 ^ 8) :
    UInt64.ofNat number = sequence ↔ number = sequence.toNat := by
  constructor
  · rintro rfl
    rw [UInt64.toNat_ofNat']
    omega
  · rintro rfl
    exact UInt64.ofNat_toNat

theorem request_reads (receiver r : ProtocolRPCRequest) (next : Nat) :
    receiver.unmarshalBinary ⟨elems, []⟩ = .ok (r, next) ↔
      r.Short ∧ next = r.marshalBinary.length ∧ elems.take next = r.marshalBinary := by
  rw [← stands_start, request_bytes]
  simp only [ProtocolRPCRequest.unmarshalBinary, bind_ok, fail_when_ok, Nat.not_lt, number_at_ok, Prod.exists, read_field_ok,
    stands_append]
  constructor
  · rintro ⟨_, _, sequence, ⟨small, first⟩, serviceMethod, middle, ⟨short, second⟩, _, _, argsData, last, ⟨shortArgs, third⟩, result⟩
    obtain ⟨rfl, rfl⟩ := Prod.mk.inj (Except.ok.inj result)
    refine ⟨⟨short, shortArgs⟩, middle, ⟨8, ?_, second⟩, third⟩
    rwa [(sequence_number _ sequence small).mp rfl] at first
  · rintro ⟨⟨short, shortArgs⟩, middle, ⟨start, first, second⟩, third⟩
    obtain rfl : start = 0 + 8 := by rw [first.next_eq, put_nat_length]
    have secondEnd := second.next_eq
    have thirdEnd := third.next_eq
    have within := third.within
    rw [field_length] at secondEnd thirdEnd
    refine ⟨(), by omega, r.sequence.toNat, ⟨r.sequence.toNat_lt, first⟩, r.serviceMethod, middle, ⟨short, second⟩, (), by omega,
      r.argsData, next, ⟨shortArgs, third⟩, ?_⟩
    rw [UInt64.ofNat_toNat]
    rfl

theorem response_reads (receiver r : ProtocolRPCResponse) (next : Nat) :
    receiver.unmarshalBinary ⟨elems, []⟩ = .ok (r, next) ↔
      r.Short ∧ next = r.marshalBinary.length ∧ elems.take next = r.marshalBinary := by
  rw [← stands_start, response_bytes]
  simp only [ProtocolRPCResponse.unmarshalBinary, bind_ok, fail_when_ok, Nat.not_lt, number_at_ok, Prod.exists, read_field_ok,
    stands_append]
  constructor
  · rintro ⟨_, _, sequence, ⟨small, first⟩, serviceMethod, middle, ⟨short, second⟩, _, _, error, later, ⟨shortError, third⟩, _, _,
      replyData, last, ⟨shortReply, fourth⟩, result⟩
    obtain ⟨rfl, rfl⟩ := Prod.mk.inj (Except.ok.inj result)
    refine ⟨⟨short, shortError, shortReply⟩, later, ⟨middle, ⟨8, ?_, second⟩, third⟩, fourth⟩
    rwa [(sequence_number _ sequence small).mp rfl] at first
  · rintro ⟨⟨short, shortError, shortReply⟩, later, ⟨middle, ⟨start, first, second⟩, third⟩, fourth⟩
    obtain rfl : start = 0 + 8 := by rw [first.next_eq, put_nat_length]
    have secondEnd := second.next_eq
    have thirdEnd := third.next_eq
    have fourthEnd := fourth.next_eq
    have within := fourth.within
    rw [field_length] at secondEnd thirdEnd fourthEnd
    refine ⟨(), by omega, r.sequence.toNat, ⟨r.sequence.toNat_lt, first⟩, r.serviceMethod, middle, ⟨short, second⟩, (), by omega,
      r.error, later, ⟨shortError, third⟩, (), by omega, r.replyData, next, ⟨shortReply, fourth⟩, ?_⟩
    rw [UInt64.ofNat_toNat]
    rfl

end Reading

theorem wire_format_faithful (request : ProtocolRPCRequest) (response : ProtocolRPCResponse) :
    Codec ProtocolRPCRequest.marshalBinary request.unmarshalBinary ProtocolRPCRequest.Short ∧
      Codec ProtocolRPCResponse.marshalBinary response.unmarshalBinary ProtocolRPCResponse.Short :=
  ⟨codec_of_reads _ _ _ (fun elems => request_inside elems request) fun elems r next => request_reads elems request r next,
    codec_of_reads _ _ _ (fun elems => response_inside elems response) fun elems r next => response_reads elems response r next⟩

example : (⟨[1], 2, [3]⟩ : ProtocolRPCRequest).unmarshalBinary ⟨(⟨[], 258, []⟩ : ProtocolRPCRequest).marshalBinary, []⟩ =
    .ok (⟨[], 258, []⟩, 16) := by decide +kernel

end MmoServer.Rpc
