import MmoServer.Lib.Runs

set_option autoImplicit false

namespace Sweep

-- A slice and the array below it, whose cells behind the slice keep what they held.
structure Window (α : Type) where
  cells : List α
  len : Nat
  fits : len ≤ cells.length

namespace Window

variable {α : Type}

def whole (items : List α) : Window α := ⟨items, items.length, le_rfl⟩

def contents (w : Window α) : List α := w.cells.take w.len

theorem contents_whole (items : List α) : (whole items).contents = items := List.take_length

theorem length_contents (w : Window α) : w.contents.length = w.len := by
  rw [contents, List.length_take]
  exact min_eq_left w.fits

theorem cut_fits (i : Nat) (w : Window α) :
    w.len - 1 ≤ (w.cells.take i ++ w.contents.drop (i + 1) ++ w.cells.drop (w.len - 1)).length := by
  have fits := w.fits
  simp only [contents, List.length_append, List.length_take, List.length_drop]
  omega

-- append(s[:i], s[i+1:]...) moves what follows one cell down, in the same array.
def cut (i : Nat) (w : Window α) : Window α where
  cells := w.cells.take i ++ w.contents.drop (i + 1) ++ w.cells.drop (w.len - 1)
  len := w.len - 1
  fits := cut_fits i w

structure Behind (w : Window α) (last : α) (k m : Nat) : Prop where
  past : w.len ≤ k
  stale : ∀ i, k ≤ i → i < k + m → w.cells[i]? = some last

theorem behind_front (last : α) (front : List α) (j k m : Nat) (w : Window α)
    (cells : w.cells = front ++ List.replicate j last) (past : w.len ≤ k) (low : front.length ≤ k)
    (high : k + m ≤ front.length + j) : w.Behind last k m := by
  refine ⟨past, fun i below upto => ?_⟩
  rw [cells, List.getElem?_append_right (by omega), List.getElem?_replicate_of_lt (by omega)]

variable [DecidableEq α]

def remove (x : α) (w : Window α) : Window α :=
  match w.contents.idxOf? x with
  | none => w
  | some i => w.cut i

variable (x : α) (w : Window α)

theorem remove_absent (absent : x ∉ w.contents) : w.remove x = w := by
  have searched : w.contents.idxOf? x = none := List.idxOf?_eq_none_iff.mpr absent
  simp only [remove, searched]

theorem remove_present (present : x ∈ w.contents) :
    (w.remove x).cells = w.contents.erase x ++ w.cells.drop (w.len - 1) ∧ (w.remove x).len = w.len - 1 := by
  obtain ⟨i, searched⟩ := Option.isSome_iff_exists.mp (List.isSome_idxOf?.mpr present)
  obtain ⟨bound, -⟩ := List.idxOf?_eq_some_iff.mp searched
  rw [length_contents] at bound
  have before : w.contents.take i = w.cells.take i := by
    rw [contents, List.take_take, min_eq_left bound.le]
  have removed : w.contents.erase x = w.cells.take i ++ w.contents.drop (i + 1) := by
    simp only [List.erase_eq_eraseIdx, searched, List.eraseIdx_eq_take_drop_succ, before]
  simp only [remove, searched, cut, removed, and_self]

theorem length_erased (present : x ∈ w.contents) : (w.contents.erase x).length = w.len - 1 := by
  rw [List.length_erase_of_mem present, length_contents]

theorem remove_contents : (w.remove x).contents = w.contents.erase x := by
  by_cases present : x ∈ w.contents
  · obtain ⟨cells, len⟩ := remove_present x w present
    have length := length_erased x w present
    rw [contents, cells, len, ← length, List.take_left]
  · rw [remove_absent x w present, List.erase_of_not_mem present]

theorem remove_behind (k : Nat) (behind : w.len ≤ k) : (w.remove x).len ≤ k ∧ (w.remove x).cells[k]? = w.cells[k]? := by
  by_cases present : x ∈ w.contents
  · obtain ⟨cells, len⟩ := remove_present x w present
    have length := length_erased x w present
    refine ⟨by omega, ?_⟩
    rw [cells, List.getElem?_append_right (by omega), length, List.getElem?_drop]
    congr 1
    omega
  · rw [remove_absent x w present]
    exact ⟨behind, rfl⟩

theorem remove_reached (passed rest tail : List α) (x last : α) (w : Window α)
    (cells : w.cells = passed ++ x :: rest ++ tail) (len : w.len = passed.length + (rest.length + 1))
    (ends : (x :: rest).getLast? = some last) :
    (w.remove x).cells = (passed ++ [x]).erase x ++ rest ++ last :: tail ∧ (w.remove x).len = passed.length + rest.length := by
  have holds : w.contents = passed ++ [x] ++ rest := by
    rw [contents, cells, len]
    simp [List.take_append]
  have present : x ∈ w.contents := by simp [holds]
  obtain ⟨init, listed⟩ := List.getLast?_eq_some_iff.mp ends
  have size : w.len - 1 = (passed ++ init).length := by
    have lengths := congrArg List.length listed
    simp only [List.length_cons, List.length_append, List.length_nil] at lengths
    rw [List.length_append]
    omega
  have behind : w.cells.drop (w.len - 1) = last :: tail := by
    rw [cells, listed, size]
    simp [List.drop_append]
  obtain ⟨moved, shorter⟩ := remove_present x w present
  refine ⟨?_, by omega⟩
  rw [moved, behind, holds, List.erase_append_left rest (by simp)]

end Window

section Loop

variable {α σ : Type} [DecidableEq α]

-- One turn of a range loop over the slice: the element of this turn is read from the
-- array as it is now, and the body may remove it from the slice.
def turn (body : σ → α → Option σ) (state : Window α × σ) (k : Nat) : Window α × σ :=
  match state.1.cells[k]? with
  | none => state
  | some x =>
    match body state.2 x with
    | none => state
    | some after => (state.1.remove x, after)

def sweep (body : σ → α → Option σ) (items : List α) (s : σ) : Window α × σ :=
  (List.range items.length).foldl (turn body) (.whole items, s)

theorem turn_eq (body : σ → α → Option σ) (w : Window α) (s : σ) (k : Nat) :
    turn body (w, s) k = (w, s) ∨
      ∃ x after, w.cells[k]? = some x ∧ body s x = some after ∧ turn body (w, s) k = (w.remove x, after) := by
  simp only [turn]
  split
  · exact .inl rfl
  next x read =>
    split
    · exact .inl rfl
    next after acted => exact .inr ⟨x, after, read, acted, rfl⟩

theorem sweep_done (body : σ → α → Option σ) (Inv : σ → Prop) (Done : α → σ → Prop)
    (step : ∀ s x after, Inv s → body s x = some after → Inv after ∧ Done x after ∧ ∀ y, Done y s → Done y after)
    (items : List α) (s : σ) (start : Inv s) :
    Inv (sweep body items s).2 ∧
      ∀ x ∈ items, Done x (sweep body items s).2 ∨ x ∈ (sweep body items s).1.contents := by
  refine List.foldlRecOn (motive := fun state : Window α × σ => Inv state.2 ∧ ∀ x ∈ items, Done x state.2 ∨ x ∈ state.1.contents)
    _ _ ⟨start, fun x member => .inr ?_⟩ ?_
  · rw [Window.contents_whole]
    exact member
  · intro (w, s) ⟨inv, covered⟩ k _
    rcases turn_eq body w s k with same | ⟨x, after, _, acted, turned⟩
    · rw [same]
      exact ⟨inv, covered⟩
    · rw [turned]
      obtain ⟨keeps, done, stays⟩ := step s x after inv acted
      refine ⟨keeps, fun y member => ?_⟩
      by_cases own : y = x
      · exact .inl (own ▸ done)
      · rw [Window.remove_contents, List.mem_erase_of_ne own]
        exact (covered y member).imp_left (stays y)

end Loop

section Trim

theorem ends_tail {α : Type} (x last : α) (rest : List α) (ends : ∀ z ∈ (x :: rest).getLast?, z = last) :
    ∀ z ∈ rest.getLast?, z = last := by
  cases rest with
  | nil => simp
  | cons y later =>
    rw [List.getLast?_cons_cons] at ends
    exact ends

variable {α : Type} [DecidableEq α] (picks : α → Bool)

def trim (w : Window α) (k : Nat) : Window α :=
  match w.cells[k]? with
  | none => w
  | some x => if picks x then w.remove x else w

theorem sweep_trims {σ : Type} (body : σ → α → Option σ) (Inv : σ → Prop)
    (step : ∀ s x after, Inv s → body s x = some after → Inv after)
    (decides : ∀ s x, Inv s → (body s x).isSome = picks x) (items : List α) (s : σ) (start : Inv s) :
    (sweep body items s).1 = (List.range items.length).foldl (trim picks) (.whole items) := by
  refine (Runs.simulates (turn body) (trim picks) (fun state w => Inv state.2 ∧ state.1 = w) ?_ _ _ _ ⟨start, rfl⟩).2
  rintro ⟨w, s⟩ _ k ⟨inv, rfl⟩
  simp only [turn, trim]
  split
  · exact ⟨inv, rfl⟩
  next x _ =>
    have decided := decides s x inv
    cases acted : body s x with
    | none => exact ⟨inv, by simp [← decided, acted]⟩
    | some after => exact ⟨step s x after inv acted, by simp [← decided, acted]⟩

-- What the loop has passed by when the slice ends: a removal moves the next element
-- to where the loop has been.
def kept : List α → List α
  | [] => []
  | x :: rest =>
    if picks x then
      match rest with
      | [] => []
      | y :: later => y :: kept later
    else x :: kept rest

theorem trim_behind (last : α) (m k : Nat) (w : Window α) (behind : w.Behind last k m) :
    ((List.range' k m).foldl (trim picks) w).contents =
      if picks last then w.contents.diff (List.replicate m last) else w.contents := by
  induction m generalizing k w with
  | zero => simp
  | succ m ih =>
    obtain ⟨past, stale⟩ := behind
    have read := stale k le_rfl (by omega)
    rw [List.range'_succ, List.foldl_cons]
    cases picked : picks last with
    | false =>
      have idle : trim picks w k = w := by simp [trim, read, picked]
      have later := ih (k + 1) w ⟨by omega, fun i low high => stale i (by omega) (by omega)⟩
      rw [idle, later]
      simp [picked]
    | true =>
      have removed : trim picks w k = w.remove last := by simp [trim, read, picked]
      have still : (w.remove last).Behind last (k + 1) m := by
        refine ⟨(w.remove_behind last (k + 1) (by omega)).1, fun i low high => ?_⟩
        rw [(w.remove_behind last i (by omega)).2]
        exact stale i (by omega) (by omega)
      rw [removed, ih (k + 1) (w.remove last) still]
      simp [picked, Window.remove_contents, List.replicate_succ, List.diff_cons]

theorem erase_reached (passed : List α) (x : α) : ((passed ++ [x]).erase x).Perm passed := by
  have front := (List.perm_append_singleton x passed).erase x
  rwa [List.erase_cons_head] at front

theorem trim_reads (passed rest tail : List α) (x : α) (w : Window α) (cells : w.cells = passed ++ x :: rest ++ tail) :
    trim picks w passed.length = if picks x then w.remove x else w := by
  have read : w.cells[passed.length]? = some x := by simp [cells]
  simp only [trim, read]

theorem trim_live (last : α) (rest passed : List α) (j : Nat) (w : Window α)
    (cells : w.cells = passed ++ rest ++ List.replicate j last) (len : w.len = passed.length + rest.length)
    (ends : ∀ x ∈ rest.getLast?, x = last) :
    ∃ k m v, (List.range' passed.length (rest.length + j)).foldl (trim picks) w = (List.range' k m).foldl (trim picks) v ∧
      v.contents.Perm (passed ++ kept picks rest) ∧ v.Behind last k m ∧ (kept picks rest).countP picks + j ≤ m := by
  fun_induction kept picks rest generalizing passed j w with
  | case1 =>
    rw [List.append_nil] at cells
    have holds : w.contents = passed := by simp [Window.contents, cells, len]
    have behind := Window.behind_front last passed j passed.length j w cells (by simp [len]) le_rfl le_rfl
    exact ⟨passed.length, j, w, by simp, by simp [holds], behind, by simp⟩
  | case2 x picked =>
    obtain rfl : x = last := ends x rfl
    obtain ⟨moved, shorter⟩ := w.remove_reached passed [] (List.replicate j x) x x cells len rfl
    have front := erase_reached passed x
    have size := front.length_eq
    rw [List.append_nil, ← List.replicate_succ] at moved
    have holds : (w.remove x).contents = (passed ++ [x]).erase x := by
      rw [Window.contents, moved, shorter, List.length_nil, Nat.add_zero, ← size, List.take_left]
    have behind := Window.behind_front x _ (j + 1) (passed.length + 1) j _ moved (by simp [shorter]) (by omega) (by omega)
    refine ⟨passed.length + 1, j, w.remove x, ?_, by simpa [holds] using front, behind, by simp⟩
    rw [List.length_singleton, Nat.add_comm 1 j, List.range'_succ, List.foldl_cons, trim_reads picks passed [] _ x w cells,
      if_pos picked]
  | case3 x picked y later ih =>
    have final : (x :: y :: later).getLast? = some last := by
      rw [List.getLast?_eq_some_getLast (List.cons_ne_nil x _)] at ends ⊢
      rw [ends _ rfl]
    obtain ⟨moved, shorter⟩ := w.remove_reached passed (y :: later) (List.replicate j last) x last cells len final
    have front := erase_reached passed x
    have size := front.length_eq
    have next : ((passed ++ [x]).erase x ++ [y]).length = passed.length + 1 := by
      rw [List.length_append, size, List.length_singleton]
    obtain ⟨k, m, v, ran, holds, behind, room⟩ := ih ((passed ++ [x]).erase x ++ [y]) (j + 1) (w.remove x)
      (by rw [moved, List.replicate_succ]; simp) (by rw [shorter, next, List.length_cons]; omega)
      (ends_tail y last later (ends_tail x last (y :: later) ends))
    refine ⟨k, m, v, ?_, ?_, behind, ?_⟩
    · rw [← ran, next, List.length_cons, Nat.add_right_comm, List.range'_succ, List.foldl_cons,
        trim_reads picks passed (y :: later) _ x w cells, if_pos picked, List.length_cons, Nat.add_right_comm, Nat.add_assoc]
    · rw [List.append_assoc] at holds
      exact holds.trans (front.append_right _)
    · rw [List.countP_cons]
      split <;> omega
  | case4 x rest clean ih =>
    obtain ⟨k, m, v, ran, holds, behind, room⟩ := ih (passed ++ [x]) j w (by simpa using cells) (by simp [len]; omega)
      (ends_tail x last rest ends)
    refine ⟨k, m, v, ?_, by simpa using holds, behind, by simpa [clean] using room⟩
    rw [← ran, List.length_cons, Nat.add_right_comm, List.range'_succ, List.foldl_cons, trim_reads picks passed rest _ x w cells,
      if_neg clean, List.length_append, List.length_singleton]

theorem rereads_clear_iff (items : List α) (last : α) (m : Nat) (room : items.countP picks ≤ m) :
    (∀ x ∈ if picks last then items.diff (List.replicate m last) else items, picks x = false) ↔
      ∀ x ∈ items, picks x = true → x = last := by
  cases picked : picks last with
  | false =>
    refine forall₂_congr fun x _ => ?_
    constructor
    · intro clean taken
      simp [clean] at taken
    · intro only
      by_contra taken
      rw [only (by simpa using taken), picked] at taken
      exact taken rfl
  | true =>
    rw [if_pos rfl]
    constructor
    · intro clear x member taken
      by_contra other
      have apart : (List.replicate m last).count x = 0 :=
        List.count_eq_zero.mpr fun listed => other (List.eq_of_mem_replicate listed)
      have left : x ∈ items.diff (List.replicate m last) := by
        rw [← List.count_pos_iff, List.count_diff, apart, Nat.sub_zero]
        exact List.count_pos_iff.mpr member
      simp [clear x left] at taken
    · intro only x left
      by_contra taken
      have listed : x ∈ items := (List.diff_sublist _ _).mem left
      obtain rfl := only x listed (by simpa using taken)
      have few : items.count x ≤ items.countP picks := by
        refine List.countP_mono_left fun y _ same => ?_
        rw [eq_of_beq same, picked]
      have gone := List.count_pos_iff.mpr left
      rw [List.count_diff, List.count_replicate_self] at gone
      omega

theorem trimmed_clear_iff (items : List α) :
    (∀ x ∈ ((List.range items.length).foldl (trim picks) (.whole items)).contents, picks x = false) ↔
      ∀ x ∈ kept picks items, picks x = true → some x = items.getLast? := by
  cases ended : items.getLast? with
  | none =>
    rw [List.getLast?_eq_none_iff.mp ended]
    simp [kept, Window.contents_whole]
  | some last =>
    obtain ⟨k, m, v, ran, holds, behind, room⟩ := trim_live picks last items [] 0 (.whole items) (by simp [Window.whole])
      (by simp [Window.whole]) (by simp [ended])
    rw [List.nil_append] at holds
    have room : v.contents.countP picks ≤ m := by
      rw [holds.countP_eq]
      exact room
    rw [List.range_eq_range', show items.length = items.length + 0 from rfl]
    rw [List.length_nil] at ran
    rw [ran, trim_behind picks last m k v behind, rereads_clear_iff picks v.contents last m room]
    simp only [holds.mem_iff, Option.some_inj]

theorem trimmed_others (items : List α) :
    ((List.range items.length).foldl (trim picks) (.whole items)).contents.filter (fun x => ! picks x) =
      items.filter fun x => ! picks x := by
  refine List.foldlRecOn (motive := fun w : Window α => w.contents.filter (fun x => ! picks x) = items.filter fun x => ! picks x)
    _ _ (by rw [Window.contents_whole]) ?_
  intro w same k _
  rw [trim]
  split
  · exact same
  next x _ =>
    split
    next picked =>
      have apart : x ∉ w.contents.filter fun x => ! picks x := by simp [picked]
      rw [Window.remove_contents, ← List.erase_filter, List.erase_of_not_mem apart, same]
    · exact same

end Trim

end Sweep
