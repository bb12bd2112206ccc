import MmoServer.Db.AsyncTurns

set_option autoImplicit false

namespace MmoServer.Db.Async.AsyncDB

variable {R V : Type}

def Left (workers : List (Worker R V)) (w : Nat) : Prop := workers[w]?.any Worker.isStopped = true

def SameLeft (before after : List (Worker R V)) : Prop := after.length = before.length ∧ ∀ w, Left after w ↔ Left before w

structure Stops (before : AsyncDB R V) (action : Action R V) (after : AsyncDB R V) : Prop where
  count : after.workers.length = before.workers.length
  kept : ∀ w, Left before.workers w → Left after.workers w
  fresh : ∀ w, Left after.workers w → Left before.workers w ∨
    before.closing.stopChanClosed = true ∧ (action = .stop w ∨ before.queue = []) ∧ after.queue = before.queue

section Stops

theorem SameLeft.stops {before after : AsyncDB R V} {action : Action R V} (same : SameLeft before.workers after.workers) :
    Stops before action after :=
  ⟨same.1, fun w => (same.2 w).mpr, fun w left => .inl ((same.2 w).mp left)⟩

theorem same_left (before after : List (Worker R V)) (workers : after = before) : SameLeft before after := by
  subst workers
  exact ⟨rfl, fun _ => Iff.rfl⟩

theorem left_set (workers : List (Worker R V)) (w i : Nat) (old new : Worker R V) (found : workers[w]? = some old) :
    Left (workers.set w new) i ↔ if i = w then new.isStopped = true else Left workers i := by
  have within : w < workers.length := (List.getElem?_eq_some_iff.mp found).1
  unfold Left
  by_cases same : i = w
  · subst same
    rw [if_pos rfl, List.getElem?_set_self within]
    rfl
  · rw [if_neg same, List.getElem?_set_ne (Ne.symm same)]

theorem same_left_set (workers : List (Worker R V)) (w : Nat) (old new : Worker R V) (found : workers[w]? = some old)
    (busy : old.isStopped = false) (still : new.isStopped = false) : SameLeft workers (workers.set w new) := by
  refine ⟨List.length_set, fun i => ?_⟩
  rw [left_set workers w i old new found]
  split
  · rename_i here
    subst here
    simp [Left, found, busy, still]
  · rfl

variable (s after : AsyncDB R V)

theorem same_left_enqueue (receiver : Option Nat) (op : AsyncOperation R V) (result : Except String Unit)
    (ran : s.enqueueOperation receiver op = some (result, after)) : SameLeft s.workers after.workers := by
  simp only [enqueueOperation] at ran
  split at ran
  · rename_i v
    split at ran
    · rename_i free
      cases ran
      simp only [Bool.and_eq_true, Option.any_eq_true] at free
      obtain ⟨⟨⟨worker, found, idle⟩, _⟩, _⟩ := free
      cases worker <;> simp [Worker.isIdle] at idle
      exact same_left_set s.workers v .idle (.holding op) found rfl rfl
    · cases ran
  · split at ran
    · cases ran
      exact same_left _ _ rfl
    · split at ran <;> cases ran <;> exact same_left _ _ rfl

theorem stops_leave (action : Action R V) (w : Nat) (found : s.workers[w]? = some .idle)
    (stopping : s.closing.stopChanClosed = true) (reason : action = .stop w ∨ s.queue = []) :
    Stops s action { s with workers := s.workers.set w .stopped } := by
  refine ⟨List.length_set, fun i left => ?_, fun i left => ?_⟩
  · rw [left_set s.workers w i .idle .stopped found]
    split
    · rfl
    · exact left
  · rw [left_set s.workers w i .idle .stopped found] at left
    split at left
    · rename_i here
      exact .inr ⟨stopping, here ▸ reason, rfl⟩
    · exact .inl left

theorem process_batch_workers (batchID : List UInt8) : (s.processBatch batchID).2.workers = s.workers := by
  simp only [processBatch]
  split <;> rfl

theorem process_pending_workers (order : Shuffle (List UInt8)) (owner : Owner)
    (ran : s.processPendingBatches order owner = some after) : after.workers = s.workers := by
  rw [(process_pending_eq s after order owner ran).2]

theorem add_to_batch_workers (batchID : List UInt8) (op : AsyncOperation R V) : (s.addToBatch batchID op).workers = s.workers := by
  simp only [addToBatch]
  split
  · exact process_batch_workers _ _
  · split <;> rfl

theorem same_left_retry (w : Nat) (receiver : Option Nat) (op : AsyncOperation R V) (result : Except String Unit)
    (found : s.workers[w]? = some (.retrying op)) (offered : s.enqueueOperation receiver op = some (result, after)) :
    SameLeft s.workers (after.workers.set w .idle) := by
  have first := same_left_enqueue s after receiver op result offered
  have still := (enqueue_offered _ _ _ _ _ offered).busy w _ found rfl
  have second := same_left_set after.workers w (.retrying op) .idle still rfl rfl
  exact ⟨second.1.trans first.1, fun i => (second.2 i).trans (first.2 i)⟩

end Stops

theorem branch_left (before after : AsyncDB R V) (action : Action R V) (branch : before.Branch action after) :
    SameLeft before.workers after.workers ∨ Stops before action after := by
  cases branch with
  | batched ref receiver op found free => exact .inl (same_left _ _ (add_to_batch_workers _ _ op))
  | accepted ref receiver op sent found offered =>
    have same := same_left_enqueue _ sent receiver op _ offered
    exact .inl same
  | rejected ref receiver op err sent found offered | sent receiver owner op batch pending result _ held offered =>
    have same := same_left_enqueue _ after receiver op _ offered
    exact .inl same
  | next owner batchID => exact .inl (same_left _ _ (process_batch_workers before batchID))
  | timed ref timer free found started begins =>
    subst begins
    exact .inl (same_left _ _ (process_batch_workers _ timer.batchID))
  | sweeps order swept marked pending | waits order index swept waits pending =>
    exact .inl (same_left _ _ (process_pending_workers before swept order _ pending))
  | received w op rest found => exact .inl (same_left_set before.workers w .idle (.holding op) found rfl rfl)
  | left _ w found stopping reason => exact .inr (stops_leave before action w found stopping reason)
  | answered w cancelled answer op result runs stats found =>
    exact .inl (same_left_set before.workers w (.holding op) (.finishing op result) found rfl rfl)
  | failed w cancelled answer op stats found => exact .inl (same_left_set before.workers w (.holding op) _ found rfl rfl)
  | retried w receiver op result sent found offered => exact .inl (same_left_retry before sent w receiver op result found offered)
  | completed w op result found => exact .inl (same_left_set before.workers w (.finishing op result) .idle found rfl rfl)
  | _ => exact .inl (same_left before.workers before.workers rfl)

theorem step_stops (before after : AsyncDB R V) (action : Action R V) (taken : before.step action = some after) :
    Stops before action after := by
  rcases branch_left before after action (step_branch before after action taken) with same | stops
  · exact same.stops
  · exact stops

end MmoServer.Db.Async.AsyncDB
