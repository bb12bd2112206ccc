import MmoServer.Lib.GoMap

set_option autoImplicit false

namespace Chunks

variable {α : Type}

-- A 64-bit int.
def wrap (value : Int) : Int := value.bmod (2 ^ 64)

variable (value : Int) (count : Nat) (items : List α) (size : Int)

theorem wrap_fits (low : -2 ^ 63 ≤ value) (high : value < 2 ^ 63) : wrap value = value := by
  apply Int.bmod_eq_of_le <;> omega

theorem wrap_above (low : 2 ^ 63 ≤ value) (high : value < 2 ^ 64) : wrap value = value - 2 ^ 64 := by
  rw [wrap, Int.bmod_eq_iff (by decide)]
  refine ⟨by omega, by omega, ?_⟩
  exact ⟨-1, by omega⟩

theorem wrap_range : -2 ^ 63 ≤ wrap value ∧ wrap value < 2 ^ 63 := by
  have low := Int.le_bmod (x := value) (m := 2 ^ 64) (by decide)
  have high := Int.bmod_lt (x := value) (m := 2 ^ 64) (by decide)
  rw [wrap]
  omega

-- One turn of a batching loop. None is the panic of a slice out of range.
def chunkAt (items : List α) (size : Int) (index : Nat) : Option (List α) :=
  let start := wrap (index * size)
  let stop := if wrap (start + size) > items.length then (items.length : Int) else wrap (start + size)
  if 0 ≤ start ∧ start ≤ stop then some ((items.drop start.toNat).take (stop - start).toNat) else none

-- The number of turns is (len + size - 1) / size, in Go's division.
def turns (count : Nat) (size : Int) : Nat := (wrap ((wrap (wrap (count + size) - 1)).tdiv size)).toNat

def chunks (items : List α) (size : Int) : Option (List (List α)) :=
  if size = 0 then none else (List.range (turns items.length size)).mapM (chunkAt items size)

theorem map_m_some {β γ : Type} (items : List β) (f : β → Option γ) (g : β → γ) (all : ∀ item ∈ items, f item = some (g item)) :
    items.mapM f = some (items.map g) := by
  induction items with
  | nil => rfl
  | cons head tail ih =>
    rw [List.mapM_cons, all head (by simp), ih fun item member => all item (by simp [member])]
    rfl

theorem map_m_lists {β γ : Type} (items : List β) (f : β → Option (List γ)) (results : List (List γ)) (all : items.mapM f = some results) :
    (∀ item ∈ items, f item = some ((f item).getD [])) ∧ results = items.map fun item => (f item).getD [] := by
  induction items generalizing results with
  | nil =>
    cases all
    exact ⟨by simp, rfl⟩
  | cons head tail ih =>
    rw [List.mapM_cons] at all
    obtain ⟨first, found, all⟩ := Option.bind_eq_some_iff.mp all
    obtain ⟨rest, more, all⟩ := Option.bind_eq_some_iff.mp all
    cases all
    obtain ⟨others, rfl⟩ := ih rest more
    rw [List.forall_mem_cons, List.map_cons, found]
    exact ⟨⟨rfl, others⟩, rfl⟩

theorem quotient_range (value size : Int) (fits : -2 ^ 63 ≤ value ∧ value < 2 ^ 63) (positive : 1 ≤ size) :
    wrap (value.tdiv size) = value.tdiv size ∧ value.tdiv size * size ≤ max value 0 := by
  by_cases low : 0 ≤ value
  · have quotient : 0 ≤ value.tdiv size := Int.tdiv_nonneg low (by omega)
    have most : value.tdiv size ≤ value := Int.tdiv_le_self _ low
    refine ⟨wrap_fits _ (by omega) (by omega), ?_⟩
    rw [Int.tdiv_eq_ediv_of_nonneg low]
    exact (Int.ediv_mul_le value (by omega)).trans (le_max_left _ _)
  · have opposite : value.tdiv size = -(-value).tdiv size := by rw [Int.neg_tdiv, Int.neg_neg]
    have quotient : 0 ≤ (-value).tdiv size := Int.tdiv_nonneg (by omega) (by omega)
    have most : (-value).tdiv size ≤ -value := Int.tdiv_le_self _ (by omega)
    refine ⟨wrap_fits _ (by omega) (by omega), le_max_of_le_right ?_⟩
    exact Int.mul_nonpos_of_nonpos_of_nonneg (by omega) (by omega)

theorem turns_bound (size : Nat) (positive : 1 ≤ size) (index : Nat) (member : index < turns count size) :
    (index + 1) * size < 2 ^ 63 := by
  have range := wrap_range (wrap (count + size) - 1)
  obtain ⟨same, most⟩ := quotient_range _ size range (by omega)
  rw [turns, same] at member
  have below : ((index + 1 : Nat) : Int) ≤ (wrap (wrap (count + size) - 1)).tdiv size := by omega
  have scaled := Int.mul_le_mul_of_nonneg_right below (by omega : (0 : Int) ≤ size)
  have whole : (((index + 1) * size : Nat) : Int) < 2 ^ 63 := by
    push_cast at scaled ⊢
    omega
  exact_mod_cast whole

theorem chunk_at_positive (size index : Nat) (bound : (index + 1) * size < 2 ^ 63) :
    chunkAt items size index =
      if index * size ≤ items.length then some ((items.drop (index * size)).take size) else none := by
  rw [Nat.succ_mul] at bound
  have start : wrap ((index : Int) * size) = ((index * size : Nat) : Int) := by
    rw [← Int.natCast_mul, wrap_fits _ (by omega) (by omega)]
  have stop : wrap (((index * size : Nat) : Int) + size) = ((index * size + size : Nat) : Int) := by
    rw [← Int.natCast_add, wrap_fits _ (by omega) (by omega)]
  simp only [chunkAt, start, stop, Int.toNat_natCast]
  generalize index * size = first at *
  by_cases within : first ≤ items.length
  · rw [if_pos within]
    by_cases last : ((first + size : Nat) : Int) > items.length
    · rw [if_pos last, if_pos (by omega), Option.some_inj, List.take_eq_take_iff, List.length_drop]
      omega
    · rw [if_neg last, if_pos (by omega), Int.natCast_add, add_sub_cancel_left, Int.toNat_natCast]
  · have last : ((first + size : Nat) : Int) > items.length := by omega
    rw [if_neg within, if_pos last, if_neg (by omega)]

theorem flatten_chunks (size count : Nat) :
    ((List.range count).map fun index => (items.drop (index * size)).take size).flatten = items.take (count * size) := by
  induction count with
  | zero => simp
  | succ count ih =>
    rw [List.range_succ, List.map_append, List.flatten_append, ih, Nat.succ_mul, List.take_add]
    simp

theorem turns_outside (outside : size < -2 ^ 63) : turns count size = 0 := by
  have range := wrap_range (wrap (count + size) - 1)
  have none : (wrap (wrap (count + size) - 1)).tdiv size = 0 := by
    rw [← Int.natAbs_eq_zero, Int.natAbs_tdiv]
    exact Nat.div_eq_of_lt (by omega)
  rw [turns, none]
  rfl

theorem chunks_negative (negative : size < 0) : chunks items size = none ∨ chunks items size = some [] := by
  rw [chunks, if_neg (by omega)]
  cases count : turns items.length size with
  | zero => exact .inr rfl
  | succ more =>
    have low : -2 ^ 63 ≤ size := by
      by_contra outside
      rw [turns_outside _ _ (by omega)] at count
      cases count
    have outside : chunkAt items size 0 = none := by
      have start : wrap (((0 : Nat) : Int) * size) = 0 := by rw [Nat.cast_zero, zero_mul]; rfl
      have stop : wrap (0 + size) = size := by rw [zero_add]; exact wrap_fits size low (by omega)
      have bound : ¬ size > items.length := by omega
      have order : ¬ (0 ≤ (0 : Int) ∧ 0 ≤ size) := by omega
      simp only [chunkAt, start, stop, if_neg bound, if_neg order]
    exact .inl (by rw [List.range_succ_eq_map, List.mapM_cons, outside]; rfl)

-- Whatever the size, no item is in two chunks.
theorem chunks_within (parts : List (List α)) (cut : chunks items size = some parts) : parts.flatten <+: items := by
  rcases lt_trichotomy size 0 with negative | zero | positive
  · rcases chunks_negative items size negative with panics | none
    · cases cut.symm.trans panics
    · cases cut.symm.trans none
      exact List.nil_prefix
  · rw [chunks, if_pos zero] at cut
    cases cut
  · obtain ⟨size, rfl⟩ := Int.eq_ofNat_of_zero_le positive.le
    rw [chunks, if_neg (by omega)] at cut
    obtain ⟨_, same⟩ := map_m_lists (List.range (turns items.length size)) (chunkAt items size) parts cut
    have each : ∀ index ∈ List.range (turns items.length size), (chunkAt items size index).getD [] =
        (items.drop (index * size)).take size := by
      intro index member
      rw [chunk_at_positive items size index (turns_bound _ _ (by omega) index (List.mem_range.mp member))]
      split
      · rfl
      · rw [List.drop_of_length_le (by omega)]
        simp
    rw [same, List.map_congr_left each, flatten_chunks]
    exact List.take_prefix _ _

theorem turns_fit (count size : Nat) (positive : 1 ≤ size) (fits : count + size - 1 < 2 ^ 63) :
    turns count size = (count + size - 1) / size := by
  have numerator : wrap (wrap (count + size) - 1) = ((count + size - 1 : Nat) : Int) := by
    rw [wrap, wrap, Int.bmod_sub_bmod]
    have same : (count : Int) + size - 1 = ((count + size - 1 : Nat) : Int) := by omega
    rw [same]
    exact wrap_fits _ (by omega) (by omega)
  rw [turns, numerator, (quotient_range _ _ (by omega) (by omega)).1, Int.tdiv_eq_ediv_of_nonneg (by omega), ← Int.natCast_ediv,
    Int.toNat_natCast]

theorem turn_starts_within (count size : Nat) (positive : 1 ≤ size) (fits : count + size - 1 < 2 ^ 63) (index : Nat)
    (turn : index < turns count size) : index * size < count := by
  rw [turns_fit count size positive fits] at turn
  have bound : (index + 1) * size ≤ count + size - 1 := (Nat.le_div_iff_mul_le positive).mp turn
  rw [Nat.succ_mul] at bound
  omega

theorem turns_cover (count size : Nat) (positive : 1 ≤ size) (fits : count + size - 1 < 2 ^ 63) : count ≤ turns count size * size := by
  have cover := Nat.div_add_mod (count + size - 1) size
  have rest := Nat.mod_lt (count + size - 1) positive
  rw [Nat.mul_comm, ← turns_fit count size positive fits] at cover
  omega

theorem chunks_exact (positive : 1 ≤ size) (fits : (items.length : Int) + size - 1 < 2 ^ 63) :
    ∃ parts, chunks items size = some parts ∧ parts.flatten = items ∧ ∀ part ∈ parts, part ≠ [] := by
  obtain ⟨size, rfl⟩ := Int.eq_ofNat_of_zero_le (by omega : 0 ≤ size)
  have one : 1 ≤ size := by exact_mod_cast positive
  have enough : ∀ index ∈ List.range (turns items.length size), index * size < items.length := fun index member =>
    turn_starts_within items.length size one (by omega) index (List.mem_range.mp member)
  refine ⟨(List.range (turns items.length size)).map fun index => (items.drop (index * size)).take size, ?_, ?_, ?_⟩
  · rw [chunks, if_neg (by omega)]
    refine map_m_some _ _ _ fun index member => ?_
    rw [chunk_at_positive items size index (turns_bound _ _ one index (List.mem_range.mp member)), if_pos (enough index member).le]
  · rw [flatten_chunks, List.take_of_length_le (turns_cover items.length size one (by omega))]
  · intro part member
    obtain ⟨index, inRange, rfl⟩ := List.mem_map.mp member
    have within := enough index inRange
    intro empty
    have lengths := congrArg List.length empty
    rw [List.length_take, List.length_drop, List.length_nil] at lengths
    omega

theorem turns_none (positive : 1 ≤ size) (low : wrap (wrap (count + size) - 1) < size) : turns count size = 0 := by
  rw [turns, (quotient_range _ _ (wrap_range _) positive).1]
  apply Int.toNat_eq_zero.mpr
  by_cases negative : wrap (wrap (count + size) - 1) < 0
  · have opposite := Int.tdiv_nonneg (a := -wrap (wrap (count + size) - 1)) (b := size) (by omega) (by omega)
    rw [Int.neg_tdiv] at opposite
    omega
  · rw [Int.tdiv_eq_zero_of_lt (by omega) low]

theorem chunks_overflow (positive : 1 ≤ size) (held : items.length < 2 ^ 63) (past : 2 ^ 63 ≤ (items.length : Int) + size - 1) :
    chunks items size = some [] := by
  have none : turns items.length size = 0 := by
    apply turns_none _ _ positive
    by_cases high : size < 2 ^ 63
    · rw [wrap, wrap, Int.bmod_sub_bmod]
      have numerator := wrap_above (items.length + size - 1) past (by omega)
      rw [wrap] at numerator
      omega
    · have range := wrap_range (wrap (items.length + size) - 1)
      omega
  rw [chunks, if_neg (by omega), none]
  rfl

theorem chunks_sized (positive : 1 ≤ size) (held : items.length < 2 ^ 63) :
    ∃ parts, chunks items size = some parts ∧ parts.flatten = if (items.length : Int) + size - 1 < 2 ^ 63 then items else [] := by
  by_cases fits : (items.length : Int) + size - 1 < 2 ^ 63
  · obtain ⟨parts, cut, rejoined, _⟩ := chunks_exact items size positive fits
    exact ⟨parts, cut, by rw [if_pos fits, rejoined]⟩
  · exact ⟨[], chunks_overflow items size positive held (by omega), by rw [if_neg fits]; rfl⟩

theorem chunks_some (held : items.length < 2 ^ 63) (parts : List (List α)) (cut : chunks items size = some parts) :
    parts = [] ∨ 1 ≤ size ∧ (items.length : Int) + size - 1 < 2 ^ 63 := by
  rcases lt_trichotomy size 0 with negative | zero | positive
  · rcases chunks_negative items size negative with panics | none
    · cases cut.symm.trans panics
    · exact .inl (Option.some.inj (cut.symm.trans none))
  · rw [chunks, if_pos zero] at cut
    cases cut
  · by_cases fits : (items.length : Int) + size - 1 < 2 ^ 63
    · exact .inr ⟨positive, fits⟩
    · exact .inl (Option.some.inj (cut.symm.trans (chunks_overflow items size positive held (by omega))))

theorem chunks_exact_iff (filled : items ≠ []) (held : items.length < 2 ^ 63) :
    (∃ parts, chunks items size = some parts ∧ parts.flatten = items ∧ ∀ part ∈ parts, part ≠ []) ↔
      1 ≤ size ∧ (items.length : Int) + size - 1 < 2 ^ 63 := by
  constructor
  · rintro ⟨parts, cut, rejoined, _⟩
    refine (chunks_some items size held parts cut).resolve_left ?_
    rintro rfl
    exact filled rejoined.symm
  · rintro ⟨positive, fits⟩
    exact chunks_exact items size positive fits

theorem count_parts_eq_one [DecidableEq α] (parts : List (List α)) (distinct : parts.flatten.Nodup) (item : α)
    (member : item ∈ parts.flatten) : (parts.countP fun part => item ∈ part) = 1 := by
  induction parts with
  | nil => cases member
  | cons part rest ih =>
    rw [List.flatten_cons] at distinct member
    obtain ⟨_, others, apart⟩ := List.nodup_append.mp distinct
    rw [List.countP_cons]
    by_cases here : item ∈ part
    · have elsewhere : (rest.countP fun other => item ∈ other) = 0 := by
        rw [List.countP_eq_zero]
        intro other inRest found
        exact apart item here item (List.mem_flatten.mpr ⟨other, inRest, of_decide_eq_true found⟩) rfl
      rw [elsewhere, if_pos (decide_eq_true here)]
    · rw [ih others ((List.mem_append.mp member).resolve_left here), if_neg (by simpa using here)]

end Chunks
