import Mathlib.Data.List.Basic
import Mathlib.Tactic

set_option autoImplicit false

namespace Slices

-- Slices over shared arrays. The cells of an array are those written so far, within its
-- capacity.
variable {α : Type}

structure Backing (α : Type) where
  cells : List α
  cap : Nat
deriving DecidableEq, Repr

structure Slice where
  array : Nat
  len : Nat
deriving DecidableEq, Repr

abbrev Arrays (α : Type) := List (Backing α)

def contents (arrays : Arrays α) (slice : Slice) : List α :=
  match arrays[slice.array]? with
  | none => []
  | some backing => backing.cells.take slice.len

def make (items : List α) (cap : Nat) (arrays : Arrays α) : Slice × Arrays α :=
  (⟨arrays.length, items.length⟩, arrays ++ [⟨items, cap⟩])

def assign (slice : Slice) (i : Nat) (item : α) (arrays : Arrays α) : Arrays α :=
  arrays.modify slice.array fun backing => { backing with cells := backing.cells.set i item }

-- In place while the capacity lasts; a new array gets the capacity that the runtime chooses.
def append (slice : Slice) (item : α) (growth : Nat) (arrays : Arrays α) : Slice × Arrays α :=
  match arrays[slice.array]? with
  | none => make [item] (1 + growth) arrays
  | some backing =>
    if slice.len < backing.cap then
      (⟨slice.array, slice.len + 1⟩,
        arrays.set slice.array { backing with cells := backing.cells.take slice.len ++ item :: backing.cells.drop (slice.len + 1) })
    else make (backing.cells.take slice.len ++ [item]) (slice.len + 1 + growth) arrays

def Within (arrays : Arrays α) (slice : Slice) : Prop :=
  ∃ backing ∈ arrays[slice.array]?, slice.len ≤ backing.cells.length

variable (arrays : Arrays α) (slice : Slice) (i : Nat) (item : α) (growth : Nat)

theorem within_bound (within : Within arrays slice) : slice.array < arrays.length := by
  obtain ⟨backing, found, -⟩ := within
  exact (List.getElem?_eq_some_iff.mp found).1

theorem contents_old (backing : Backing α) (slice : Slice) (old : slice.array < arrays.length) :
    contents (arrays ++ [backing]) slice = contents arrays slice := by
  rw [contents, List.getElem?_append_left old, contents]

theorem contents_make (items : List α) (cap : Nat) (arrays : Arrays α) :
    contents (make items cap arrays).2 (make items cap arrays).1 = items := by
  simp [contents, make]

theorem within_make (items : List α) (cap : Nat) (arrays : Arrays α) :
    Within (make items cap arrays).2 (make items cap arrays).1 := by
  refine ⟨⟨items, cap⟩, ?_, le_rfl⟩
  simp [make]

theorem within_old (backing : Backing α) (slice : Slice) (within : Within arrays slice) : Within (arrays ++ [backing]) slice := by
  have old := within_bound arrays slice within
  rwa [Within, List.getElem?_append_left old]

theorem contents_assign_other (slice other : Slice) (i : Nat) (item : α) (apart : other.array ≠ slice.array) :
    contents (assign slice i item arrays) other = contents arrays other := by
  rw [contents, assign, List.getElem?_modify_ne _ _ (Ne.symm apart), contents]

theorem contents_assign : contents (assign slice i item arrays) slice = (contents arrays slice).set i item := by
  rw [contents, assign, List.getElem?_modify_eq, contents]
  cases arrays[slice.array]? with
  | none => rfl
  | some backing => exact List.take_set

theorem within_assign (slice other : Slice) (i : Nat) (item : α) (within : Within arrays other) :
    Within (assign slice i item arrays) other := by
  obtain ⟨backing, found, fits⟩ := within
  by_cases same : other.array = slice.array
  · refine ⟨{ backing with cells := backing.cells.set i item }, ?_, by rwa [List.length_set]⟩
    rw [Option.mem_def] at found ⊢
    rw [assign, ← same, List.getElem?_modify_eq, found]
    rfl
  · exact ⟨backing, by rwa [assign, List.getElem?_modify_ne _ _ (Ne.symm same)], fits⟩

theorem contents_append (within : Within arrays slice) :
    contents (append slice item growth arrays).2 (append slice item growth arrays).1 = contents arrays slice ++ [item] := by
  obtain ⟨backing, found, fits⟩ := within
  have old : contents arrays slice = backing.cells.take slice.len := by rw [contents, Option.mem_def.mp found]
  have bound := (List.getElem?_eq_some_iff.mp found).1
  rw [append, Option.mem_def.mp found]
  simp only
  split
  · have head : (backing.cells.take slice.len).length = slice.len := by rw [List.length_take]; omega
    simp only [contents, List.getElem?_set_self bound]
    rw [List.take_append, head, ← contents, old]
    simp
  · rw [contents_make, old]

theorem contents_append_old (slice other : Slice) (item : α) (growth : Nat) (within : Within arrays slice)
    (old : other.array < arrays.length) (apart : other.array = slice.array → other.len ≤ slice.len) :
    contents (append slice item growth arrays).2 other = contents arrays other := by
  obtain ⟨backing, found, fits⟩ := within
  rw [Option.mem_def] at found
  simp only [append, found]
  split
  · by_cases same : other.array = slice.array
    · have shorter := apart same
      have head : (backing.cells.take slice.len).length = slice.len := by rw [List.length_take]; omega
      simp only [contents, same, List.getElem?_set_self (List.getElem?_eq_some_iff.mp found).1, found]
      rw [List.take_append_of_le_length (by omega), List.take_take, Nat.min_eq_left shorter]
    · rw [contents, List.getElem?_set_ne (Ne.symm same), contents]
  · exact contents_old arrays _ other old

theorem append_array (within : Within arrays slice) :
    ((append slice item growth arrays).1.array = slice.array ∧ (append slice item growth arrays).1.len = slice.len + 1) ∨
      (append slice item growth arrays).1.array = arrays.length := by
  obtain ⟨backing, found, fits⟩ := within
  rw [append, Option.mem_def.mp found]
  simp only
  split
  · exact .inl ⟨rfl, rfl⟩
  · exact .inr rfl

theorem append_size : arrays.length ≤ (append slice item growth arrays).2.length := by
  rw [append]
  split
  · simp [make]
  · split <;> simp [make]

theorem within_append (within : Within arrays slice) :
    Within (append slice item growth arrays).2 (append slice item growth arrays).1 := by
  obtain ⟨backing, found, fits⟩ := within
  have bound := (List.getElem?_eq_some_iff.mp found).1
  rw [append, Option.mem_def.mp found]
  simp only
  split
  · refine ⟨_, List.getElem?_set_self bound, ?_⟩
    simp only [List.length_append, List.length_take, List.length_cons]
    omega
  · exact within_make _ _ _

theorem within_append_old (slice other : Slice) (item : α) (growth : Nat) (within : Within arrays other) :
    Within (append slice item growth arrays).2 other := by
  cases found : arrays[slice.array]? with
  | none =>
    simp only [append, found]
    exact within_old arrays _ other within
  | some backing =>
    simp only [append, found]
    split
    · by_cases same : other.array = slice.array
      · obtain ⟨own, its, fits⟩ := within
        rw [same, found] at its
        cases its
        refine ⟨_, by rw [same]; exact List.getElem?_set_self (List.getElem?_eq_some_iff.mp found).1, ?_⟩
        simp only [List.length_append, List.length_take, List.length_cons, List.length_drop]
        omega
      · rwa [Within, List.getElem?_set_ne (Ne.symm same)]
    · exact within_old arrays _ other within

end Slices
