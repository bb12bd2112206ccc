import MmoServer.Lib.Bytes

set_option autoImplicit false

-- Byte strings behind their lengths, as a format puts them one after the other.
namespace Fields

open Bytes

def numberAt (data : Slice UInt8) (offset width : Nat) : Except Fault Nat :=
  if offset + width ≤ data.elems.length then .ok (getNat ((data.elems.take (offset + width)).drop offset)) else .error .outOfRange

structure Stands (elems piece : List UInt8) (offset next : Nat) : Prop where
  next_eq : next = offset + piece.length
  within : next ≤ elems.length
  parts : elems.take next = elems.take offset ++ piece

theorem stands_append (elems first second : List UInt8) (offset next : Nat) :
    Stands elems (first ++ second) offset next ↔ ∃ middle, Stands elems first offset middle ∧ Stands elems second middle next := by
  constructor
  · rintro ⟨length, within, parts⟩
    rw [List.length_append] at length
    have front : elems.take (offset + first.length) = elems.take offset ++ first := by
      have cut := congrArg (List.take (offset + first.length)) parts
      rw [List.take_take, Nat.min_eq_left (by omega), ← List.append_assoc,
        List.take_append_of_le_length (by simp; omega)] at cut
      rw [cut, List.take_of_length_le (by simp)]
    exact ⟨offset + first.length, ⟨rfl, by omega, front⟩, ⟨by omega, within, by rw [parts, front, List.append_assoc]⟩⟩
  · rintro ⟨middle, ⟨firstLength, _, front⟩, ⟨length, within, parts⟩⟩
    exact ⟨by rw [List.length_append]; omega, within, by rw [parts, front, List.append_assoc]⟩

theorem stands_start (elems piece : List UInt8) (next : Nat) :
    Stands elems piece 0 next ↔ next = piece.length ∧ elems.take next = piece := by
  constructor
  · rintro ⟨length, -, parts⟩
    exact ⟨by omega, parts⟩
  · rintro ⟨length, parts⟩
    have cut := congrArg List.length parts
    rw [List.length_take] at cut
    exact ⟨by omega, by omega, parts⟩

theorem stands_same (elems first second : List UInt8) (offset next : Nat) (one : Stands elems first offset next)
    (other : Stands elems second offset next) : first = second :=
  List.append_cancel_left (one.parts.symm.trans other.parts)

variable (width : Nat)

theorem stands_number (elems : List UInt8) (offset value : Nat) (within : offset + width ≤ elems.length) (small : value < 256 ^ width) :
    getNat ((elems.take (offset + width)).drop offset) = value ↔ Stands elems (putNat width value) offset (offset + width) := by
  rw [piece_value elems offset width value within small]
  exact ⟨fun parts => ⟨by rw [put_nat_length], within, parts⟩, Stands.parts⟩

def field (bytes : List UInt8) : List UInt8 := putNat width bytes.length ++ bytes

theorem field_length (bytes : List UInt8) : (field width bytes).length = width + bytes.length := by
  rw [field, List.length_append, put_nat_length]

section Writing

def putField (at_ : List UInt8 × Nat) (bytes : List UInt8) : List UInt8 × Nat :=
  let buffer := writeAt at_.1 at_.2 (putNat width bytes.length)
  (copyInto buffer (at_.2 + width) buffer.length bytes, at_.2 + width + bytes.length)

theorem put_field_next (done bytes : List UInt8) (room : Nat) :
    putField width (done ++ List.replicate (width + bytes.length + room) 0, done.length) bytes =
      ((done ++ field width bytes) ++ List.replicate room 0, (done ++ field width bytes).length) := by
  have numbered : writeAt (done ++ List.replicate (width + bytes.length + room) 0) done.length (putNat width bytes.length) =
      (done ++ putNat width bytes.length) ++ List.replicate (bytes.length + room) 0 := by
    rw [write_at_next done _ _ _ rfl, put_nat_length, List.drop_replicate]
    congr 2
    omega
  have length : (done ++ putNat width bytes.length).length = done.length + width := by
    rw [List.length_append, put_nat_length]
  have all : bytes.take (bytes.length + room) = bytes := List.take_of_length_le (by omega)
  simp only [putField, numbered]
  rw [List.length_append, length, List.length_replicate, copy_into_next _ _ bytes _ _ length, all, List.drop_replicate,
    Nat.add_sub_cancel_left, List.length_append, field_length, field, List.append_assoc done]
  simp only [Nat.add_assoc]

end Writing

section Reading

def readField (data : Slice UInt8) (offset : Nat) (exceeds : String) : Except Fault (List UInt8 × Nat) := do
  let size ← numberAt data offset width
  failWhen (data.elems.length < offset + width + size) exceeds
  let bytes ← data.slice (offset + width) (offset + width + size)
  return (bytes, offset + width + size)

theorem number_at_ok (data : Slice UInt8) (offset value : Nat) :
    numberAt data offset width = .ok value ↔
      value < 256 ^ width ∧ Stands data.elems (putNat width value) offset (offset + width) := by
  rw [numberAt]
  split
  · rename_i within
    constructor
    · intro read
      have value_ := Except.ok.inj read
      have small : value < 256 ^ width := by
        rw [← value_]
        exact piece_lt data.elems offset width within
      exact ⟨small, (stands_number width data.elems offset value within small).mp value_⟩
    · rintro ⟨small, stands⟩
      rw [(stands_number width data.elems offset value within small).mpr stands]
  · rename_i short
    constructor
    · intro read
      cases read
    · rintro ⟨-, -, within, -⟩
      exact absurd within short

theorem inside_number_at (elems : List UInt8) (offset : Nat) (within : offset + width ≤ elems.length) :
    Inside elems fun data => numberAt data offset width := by
  simp [Inside, numberAt, within]

theorem inside_read_field (elems : List UInt8) (offset : Nat) (exceeds : String) (within : offset + width ≤ elems.length) :
    Inside elems fun data => readField width data offset exceeds := by
  unfold readField
  refine inside_bind elems _ _ (inside_number_at width elems offset within) fun size _ => ?_
  refine inside_bind elems _ _ (inside_fail_when elems (fun elems => elems.length < offset + width + size) exceeds) fun _ whole => ?_
  rw [fail_when_ok, Nat.not_lt] at whole
  refine inside_bind elems _ _ (inside_slice elems (offset + width) _ (by omega) whole) fun bytes _ => ?_
  exact inside_ok elems (bytes, offset + width + size)

theorem read_field_ok (data : Slice UInt8) (offset : Nat) (exceeds : String) (bytes : List UInt8) (next : Nat) :
    readField width data offset exceeds = .ok (bytes, next) ↔
      bytes.length < 256 ^ width ∧ Stands data.elems (field width bytes) offset next := by
  constructor
  · intro accepted
    simp only [readField, bind_ok, fail_when_ok, Nat.not_lt, number_at_ok] at accepted
    obtain ⟨size, ⟨small, front⟩, _, whole, body, bodyRead, result⟩ := accepted
    rw [Slice.slice_within data _ _ (by omega) whole] at bodyRead
    obtain ⟨rfl, rfl⟩ := Prod.mk.inj (Except.ok.inj result)
    have bodyEq := Except.ok.inj bodyRead
    have length : body.length = size := by
      rw [← bodyEq, piece_length data.elems _ _ whole]
      omega
    refine ⟨by omega, (stands_append _ _ _ _ _).mpr ⟨offset + width, length ▸ front, by omega, whole, ?_⟩⟩
    rw [take_piece data.elems (offset + width) _ (by omega), bodyEq]
  · rintro ⟨small, stands⟩
    obtain ⟨middle, front, ⟨rfl, whole, parts⟩⟩ := (stands_append _ _ _ _ _).mp stands
    obtain rfl : middle = offset + width := by
      rw [front.next_eq, put_nat_length]
    simp only [readField, bind_ok, fail_when_ok, Nat.not_lt, number_at_ok]
    refine ⟨bytes.length, ⟨small, front⟩, (), whole, bytes, ?_, rfl⟩
    rw [Slice.slice_within data _ _ (by omega) whole, piece_eq data.elems _ _ _ (by omega) parts]

end Reading

section Codecs

variable {M : Type}

-- Messages are read as they were written, reads stay inside the data, and what is read
-- is what a message would be written as.
structure Codec (encode : M → List UInt8) (decode : Slice UInt8 → Except Fault (M × Nat)) (Short : M → Prop) : Prop where
  roundTrip : ∀ m, Short m → decode ⟨encode m, []⟩ = .ok (m, (encode m).length)
  inside : ∀ elems, Inside elems decode
  consumed : ∀ elems m next, decode ⟨elems, []⟩ = .ok (m, next) → next ≤ elems.length ∧ encode m = elems.take next

theorem codec_of_reads (encode : M → List UInt8) (decode : Slice UInt8 → Except Fault (M × Nat)) (Short : M → Prop)
    (inside : ∀ elems, Inside elems decode)
    (reads : ∀ elems m next, decode ⟨elems, []⟩ = .ok (m, next) ↔
      Short m ∧ next = (encode m).length ∧ elems.take next = encode m) : Codec encode decode Short where
  roundTrip m short := (reads _ m _).mpr ⟨short, rfl, List.take_length⟩
  inside := inside
  consumed elems m next read := by
    obtain ⟨-, length, taken⟩ := (reads elems m next).mp read
    have cut := congrArg List.length taken
    rw [List.length_take] at cut
    exact ⟨by omega, taken.symm⟩

end Codecs

end Fields
