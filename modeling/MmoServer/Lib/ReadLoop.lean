import Mathlib.Data.List.Perm.Basic
import Mathlib.Tactic

set_option autoImplicit false

-- A loop that reads from a connection into a buffer and hands a copy of each read to
-- a goroutine of its own.
namespace ReadLoop

variable {size : Nat}

abbrev Chunk (size : Nat) : Type := { data : List UInt8 // data.length ≤ size }

inductive Event (size : Nat) where
  | read (result : Except String (Chunk size))
  | finish (index : Nat)

structure State where
  reading : Bool := true
  running : List (List UInt8) := []
  finished : List (List UInt8) := []

def step (s : State) : Event size → State
  | .read (.error _) => { s with reading := false }
  | .read (.ok chunk) =>
    if s.reading = true ∧ chunk.val.length > 0 then { s with running := s.running ++ [chunk.val] } else s
  | .finish index =>
    match s.running[index]? with
    | none => s
    | some data => { s with running := s.running.eraseIdx index, finished := s.finished ++ [data] }

def received : List (Event size) → List (List UInt8)
  | [] => []
  | .read (.error _) :: _ => []
  | .read (.ok chunk) :: rest => chunk.val :: received rest
  | .finish _ :: rest => received rest

def handed (events : List (Event size)) : List (List UInt8) := (received events).filter fun data => data.length > 0

variable (events : List (Event size)) (s : State)

theorem handed_flatten : (handed events).flatten = (received events).flatten := by
  have same : handed events = (received events).filter fun data => !data.isEmpty := by
    refine List.filter_congr fun data _ => ?_
    cases data <;> rfl
  rw [same, List.flatten_filter_not_isEmpty]

def State.started (s : State) : List (List UInt8) := s.running ++ s.finished

theorem finish_started (index : Nat) : (step s (.finish index : Event size)).started.Perm s.started := by
  rw [step]
  split
  · exact List.Perm.refl _
  next data found =>
    obtain ⟨inside, same⟩ := List.getElem?_eq_some_iff.mp found
    have erased : (data :: s.running.eraseIdx index).Perm s.running := same ▸ List.getElem_cons_eraseIdx_perm inside
    have moved : (s.running.eraseIdx index ++ (s.finished ++ [data])).Perm (data :: s.running.eraseIdx index ++ s.finished) := by
      rw [← List.append_assoc]
      exact List.perm_append_singleton _ _
    exact moved.trans (erased.append_right s.finished)

theorem finish_reading (index : Nat) : (step s (.finish index : Event size)).reading = s.reading := by
  rw [step]
  split <;> rfl

theorem read_started (chunk : Chunk size) (open_ : s.reading = true) :
    (step s (.read (.ok chunk))).started.Perm (s.started ++ [chunk.val].filter fun data => data.length > 0) ∧
      (step s (.read (.ok chunk))).reading = true := by
  rw [step]
  by_cases some_ : chunk.val.length > 0
  · rw [if_pos ⟨open_, some_⟩, List.filter_cons_of_pos (by simpa using some_), List.filter_nil]
    refine ⟨?_, open_⟩
    have moved : (s.running ++ [chunk.val] ++ s.finished).Perm (s.running ++ (s.finished ++ [chunk.val])) := by
      rw [List.append_assoc]
      exact List.perm_append_comm.append_left s.running
    rwa [← List.append_assoc] at moved
  · rw [if_neg fun both => some_ both.2, List.filter_cons_of_neg (by simpa using some_), List.filter_nil, List.append_nil]
    exact ⟨List.Perm.refl _, open_⟩

theorem closed_started (closed : s.reading = false) : (events.foldl step s).started.Perm s.started := by
  induction events generalizing s with
  | nil => exact List.Perm.refl _
  | cons event rest ih =>
    cases event with
    | read result =>
      cases result with
      | error text => exact ih { s with reading := false } rfl
      | ok chunk =>
        have same : step s (.read (.ok chunk)) = s := if_neg fun both => by simp [closed] at both
        rw [List.foldl_cons, same]
        exact ih s closed
    | finish index => exact (ih _ ((finish_reading s index).trans closed)).trans (finish_started s index)

theorem run_started (open_ : s.reading = true) : (events.foldl step s).started.Perm (s.started ++ handed events) := by
  induction events generalizing s with
  | nil => exact List.Perm.of_eq (List.append_nil _).symm
  | cons event rest ih =>
    cases event with
    | read result =>
      cases result with
      | error text =>
        have none_ : handed (.read (.error text) :: rest : List (Event size)) = [] := rfl
        rw [none_, List.append_nil]
        exact closed_started rest { s with reading := false } rfl
      | ok chunk =>
        obtain ⟨more, still⟩ := read_started s chunk open_
        have split_ : handed (.read (.ok chunk) :: rest : List (Event size)) =
            ([chunk.val].filter fun data => data.length > 0) ++ handed rest := by
          rw [handed, received, ← List.singleton_append, List.filter_append]
          rfl
        rw [split_, ← List.append_assoc]
        exact (ih _ still).trans (more.append_right _)
    | finish index =>
      exact (ih _ ((finish_reading s index).trans open_)).trans ((finish_started s index).append_right _)

theorem finished_handed (ended : (events.foldl step {}).running = []) : (events.foldl step {}).finished.Perm (handed events) := by
  have all := run_started events {} rfl
  rw [State.started, ended] at all
  exact all

end ReadLoop
