import Mathlib.Data.List.Basic
import Mathlib.Data.List.Induction
import Mathlib.Data.List.TakeDrop
import Mathlib.Tactic

set_option autoImplicit false

namespace Bytes

-- Big-endian integers of a fixed width, truncated to the width on writing.
def putNat : Nat → Nat → List UInt8
  | 0, _ => []
  | width + 1, value => putNat width (value / 256) ++ [UInt8.ofNat value]

def getNat (bytes : List UInt8) : Nat := bytes.foldl (fun total byte => total * 256 + byte.toNat) 0

@[simp] theorem put_nat_length (width value : Nat) : (putNat width value).length = width := by
  induction width generalizing value with
  | zero => rfl
  | succ width ih => simp [putNat, ih]

theorem get_nat_concat (bytes : List UInt8) (byte : UInt8) :
    getNat (bytes ++ [byte]) = getNat bytes * 256 + byte.toNat := by
  simp [getNat]

theorem get_put_nat (width value : Nat) : getNat (putNat width value) = value % 256 ^ width := by
  induction width generalizing value with
  | zero => simp [putNat, getNat, Nat.mod_one]
  | succ width ih =>
    have last : (UInt8.ofNat value).toNat = value % 256 := by simp
    rw [putNat, get_nat_concat, ih, last, pow_succ, mul_comm (256 ^ width) 256, Nat.mod_mul]
    omega

theorem put_get_nat (bytes : List UInt8) : putNat bytes.length (getNat bytes) = bytes := by
  induction bytes using List.reverseRecOn with
  | nil => rfl
  | append_singleton bytes byte ih =>
    have small : byte.toNat < 256 := byte.toNat_lt
    have quotient : (getNat bytes * 256 + byte.toNat) / 256 = getNat bytes := by omega
    have remainder : UInt8.ofNat (getNat bytes * 256 + byte.toNat) = byte := by
      apply UInt8.toNat_inj.mp
      simp only [UInt8.toNat_ofNat']
      omega
    rw [List.length_append, List.length_singleton, putNat, get_nat_concat, quotient, remainder, ih]

theorem get_nat_lt (bytes : List UInt8) : getNat bytes < 256 ^ bytes.length := by
  have same := get_put_nat bytes.length (getNat bytes)
  rw [put_get_nat] at same
  rw [same]
  exact Nat.mod_lt _ (by positivity)

theorem put_nat_append (high low value : Nat) :
    putNat (high + low) value = putNat high (value / 256 ^ low) ++ putNat low value := by
  induction low generalizing value with
  | zero => simp [putNat]
  | succ low ih =>
    rw [← Nat.add_assoc, putNat, ih, Nat.div_div_eq_div_mul, ← pow_succ', putNat, List.append_assoc]

section Pieces

variable (bytes : List UInt8) (low high : Nat)

theorem take_piece (ordered : low ≤ high) : bytes.take high = bytes.take low ++ (bytes.take high).drop low := by
  have parts := (List.take_append_drop low (bytes.take high)).symm
  rwa [List.take_take, Nat.min_eq_left ordered] at parts

theorem piece_length (within : high ≤ bytes.length) : ((bytes.take high).drop low).length = high - low := by
  simp [Nat.min_eq_left within]

theorem piece_eq (bytes piece : List UInt8) (low high : Nat) (within : low ≤ bytes.length)
    (parts : bytes.take high = bytes.take low ++ piece) : (bytes.take high).drop low = piece := by
  rw [parts, List.drop_append_of_le_length (by simp [within])]
  simp

theorem put_nat_piece (low width : Nat) (within : low + width ≤ bytes.length) :
    putNat width (getNat ((bytes.take (low + width)).drop low)) = (bytes.take (low + width)).drop low := by
  have size := piece_length bytes low (low + width) within
  rw [Nat.add_sub_cancel_left] at size
  have back := put_get_nat ((bytes.take (low + width)).drop low)
  rwa [size] at back

theorem piece_lt (low width : Nat) (within : low + width ≤ bytes.length) :
    getNat ((bytes.take (low + width)).drop low) < 256 ^ width := by
  have bound := get_nat_lt ((bytes.take (low + width)).drop low)
  rwa [piece_length bytes _ _ within, Nat.add_sub_cancel_left] at bound

theorem piece_value (low width value : Nat) (within : low + width ≤ bytes.length) (bounded : value < 256 ^ width) :
    getNat ((bytes.take (low + width)).drop low) = value ↔
      bytes.take (low + width) = bytes.take low ++ putNat width value := by
  constructor
  · intro read
    rw [← read, put_nat_piece bytes low width within]
    exact take_piece bytes low (low + width) (by omega)
  · intro parts
    rw [piece_eq bytes _ _ _ (by omega) parts, get_put_nat, Nat.mod_eq_of_lt bounded]

end Pieces

def writeAt (buffer : List UInt8) (offset : Nat) (bytes : List UInt8) : List UInt8 :=
  buffer.take offset ++ bytes ++ buffer.drop (offset + bytes.length)

-- copy(buffer[start:stop], source) moves as many bytes as both sides hold.
def copyInto (buffer : List UInt8) (start stop : Nat) (source : List UInt8) : List UInt8 :=
  writeAt buffer start (source.take (stop - start))

theorem write_at_next (done rest bytes : List UInt8) (offset : Nat) (reached : done.length = offset) :
    writeAt (done ++ rest) offset bytes = done ++ bytes ++ rest.drop bytes.length := by
  subst reached
  simp [writeAt, List.drop_append]

theorem copy_into_next (done rest source : List UInt8) (start count : Nat) (reached : done.length = start) :
    copyInto (done ++ rest) start (start + count) source =
      done ++ source.take count ++ rest.drop (source.take count).length := by
  rw [copyInto, Nat.add_sub_cancel_left, write_at_next done rest _ start reached]

theorem copy_into_rest (done rest source : List UInt8) (start : Nat) (reached : done.length = start)
    (fits : rest.length = source.length) :
    copyInto (done ++ rest) start (done ++ rest).length source = done ++ source := by
  rw [List.length_append, reached, copy_into_next done rest source start _ reached, fits, List.take_length, ← fits,
    List.drop_length, List.append_nil]

-- A Go slice, with the cells between its length and its capacity.
structure Slice (α : Type) where
  elems : List α
  spare : List α := []
deriving DecidableEq, Repr

inductive Fault where
  | error (text : String)
  | outOfRange
deriving DecidableEq, Repr

-- The guard `if failed { return nil, errors.New(text) }`.
def failWhen (failed : Prop) [Decidable failed] (text : String) : Except Fault Unit :=
  if failed then .error (.error text) else .ok ()

theorem fail_when_ok (failed : Prop) [Decidable failed] (text : String) (value : Unit) :
    failWhen failed text = .ok value ↔ ¬ failed := by
  by_cases failed <;> simp [failWhen, *]

theorem bind_ok {ε α β : Type} (first : Except ε α) (next : α → Except ε β) (result : β) :
    first >>= next = .ok result ↔ ∃ value, first = .ok value ∧ next value = .ok result := by
  cases first <;> simp [bind, Except.bind]

namespace Slice

variable {α : Type}

def index (data : Slice α) (i : Nat) : Except Fault α :=
  match data.elems[i]? with
  | some value => .ok value
  | none => .error .outOfRange

-- data[low:high] is checked against the capacity, not against the length.
def slice (data : Slice α) (low high : Nat) : Except Fault (List α) :=
  if low ≤ high ∧ high ≤ (data.elems ++ data.spare).length then
    .ok (((data.elems ++ data.spare).take high).drop low)
  else .error .outOfRange

theorem slice_within (data : Slice α) (low high : Nat) (ordered : low ≤ high) (within : high ≤ data.elems.length) :
    data.slice low high = .ok ((data.elems.take high).drop low) := by
  have reachable : high ≤ (data.elems ++ data.spare).length := by
    rw [List.length_append]
    omega
  rw [slice, if_pos ⟨ordered, reachable⟩, List.take_append_of_le_length within]

theorem index_ok (data : Slice α) (i : Nat) (value : α) :
    data.index i = .ok value ↔ data.elems[i]? = some value := by
  cases found : data.elems[i]? <;> simp [index, found]

end Slice

def Inside {α β : Type} (elems : List α) (read : Slice α → Except Fault β) : Prop :=
  read ⟨elems, []⟩ ≠ .error .outOfRange ∧ ∀ spare, read ⟨elems, spare⟩ = read ⟨elems, []⟩

section Inside

variable {α β γ : Type} (elems : List α)

theorem inside_bind (first : Slice α → Except Fault β) (next : Slice α → β → Except Fault γ) (before : Inside elems first)
    (later : ∀ value, first ⟨elems, []⟩ = .ok value → Inside elems fun data => next data value) :
    Inside elems fun data => first data >>= next data := by
  obtain ⟨safe, same⟩ := before
  unfold Inside
  simp only [same]
  cases result : first ⟨elems, []⟩ with
  | error fault =>
    rw [result] at safe
    exact ⟨fun failed => safe (congrArg Except.error (Except.error.inj failed)), fun _ => rfl⟩
  | ok value => exact later value result

theorem inside_map (read : Slice α → Except Fault β) (change : β → γ) (inside : Inside elems read) :
    Inside elems fun data => change <$> read data := by
  refine ⟨?_, fun spare => congrArg (change <$> ·) (inside.2 spare)⟩
  intro failed
  apply inside.1
  cases result : read ⟨elems, []⟩ with
  | error fault =>
    dsimp only at failed
    rw [result] at failed
    exact congrArg Except.error (Except.error.inj failed)
  | ok value =>
    dsimp only at failed
    rw [result] at failed
    cases failed

theorem inside_ok (value : β) : Inside elems fun _ => (.ok value : Except Fault β) :=
  ⟨(by simp), fun _ => rfl⟩

theorem inside_fail_when (failed : List α → Prop) [∀ elems, Decidable (failed elems)] (text : String) :
    Inside elems fun data => failWhen (failed data.elems) text := by
  refine ⟨?_, fun _ => rfl⟩
  by_cases holds : failed elems <;> simp [failWhen, holds]

theorem inside_index (i : Nat) (within : i < elems.length) : Inside elems fun data => data.index i := by
  simp [Inside, Slice.index, List.getElem?_eq_getElem within]

theorem inside_slice (low high : Nat) (ordered : low ≤ high) (within : high ≤ elems.length) :
    Inside elems fun data => data.slice low high := by
  have read (spare : List α) := Slice.slice_within ⟨elems, spare⟩ low high ordered within
  simp [Inside, read]

end Inside

end Bytes
