import MmoServer.Db.AsyncTimers
import MmoServer.Db.AsyncClose

set_option autoImplicit false

namespace MmoServer.Db.Async.AsyncDB

variable {R V : Type}

def Drained (s : AsyncDB R V) : Prop := s.calls = [] ∧ s.handedOver = [] ∧ ∀ batch ∈ s.batchQueues.values, batch = []

section Quiet

variable (s : AsyncDB R V)

theorem Drained.queue (drained : s.Drained) (id : List UInt8) (batch : List (AsyncOperation R V))
    (found : s.batchQueues.lookup id = some batch) : batch = [] :=
  drained.2.2 batch ((AList.mem_values _ _).mpr ⟨id, found⟩)

theorem process_batch_nothing (batchID : List UInt8) (empty : ∀ batch, s.batchQueues.lookup batchID = some batch → batch = []) :
    s.processBatch batchID = ([], s) := by
  rw [processBatch]
  split
  · rfl
  · rfl
  · rename_i batch some found
    exact absurd (empty batch found) some

theorem owner_ne_close (shutting : s.Shutting) (returned : s.closing = .returned) (holder : Holder R V)
    (held : s.holder = some holder) : holder.owner ≠ .close := by
  intro owner
  have sweeping := shutting.owner holder held owner
  rw [returned] at sweeping
  cases sweeping

structure Quiet (s : AsyncDB R V) : Prop where
  shutting : s.Shutting
  returned : s.closing = .returned
  drained : s.Drained
  live : s.panicked = false

theorem Quiet.unoccupied (quiet : s.Quiet) (w : Nat) (worker : Worker R V) (found : s.workers[w]? = some worker) :
    worker = .stopped := by
  have stopped := List.all_eq_true.mp (quiet.shutting.waited (.inr quiet.returned)) worker (List.mem_of_getElem? found)
  cases worker with
  | stopped => rfl
  | idle | holding op | retrying op | finishing op result => cases stopped

theorem Quiet.uncalled (quiet : s.Quiet) (ref : Nat) (op : AsyncOperation R V)
    (found : (s.calls.find? fun op => op.ref == ref) = some op) : False := by
  rw [quiet.drained.1] at found
  cases found

theorem Quiet.step (quiet : s.Quiet) (action : Action R V) (after : AsyncDB R V) (taken : s.step action = some after) :
    after.Quiet := by
  have shutting := Shutting.step s after action quiet.shutting taken
  obtain ⟨calls, handed, queues⟩ := quiet.drained
  cases step_branch s after action taken with
  | idle _ waits | fires ref timer found => exact ⟨shutting, quiet.returned, quiet.drained, quiet.live⟩
  | called type sql args resultHandler callback opened =>
    rw [quiet.returned] at opened
    cases opened
  | batched ref receiver op found | accepted ref receiver op sent found | rejected ref receiver op err sent found =>
    exact (quiet.uncalled s ref op found).elim
  | sent receiver owner op batch pending result _ held =>
    simp [handedOver, held] at handed
  | next owner batchID pending held =>
    have nothing := process_batch_nothing s batchID (quiet.drained.queue s batchID)
    rw [nothing]
    exact ⟨nothing ▸ shutting, quiet.returned, ⟨calls, rfl, queues⟩, quiet.live⟩
  | released owner held =>
    have other : owner ≠ .close := owner_ne_close s quiet.shutting quiet.returned _ held
    exact ⟨shutting, (if_neg other).trans quiet.returned, ⟨calls, rfl, queues⟩, quiet.live⟩
  | timed ref timer free found started begins =>
    have nothing : started.processBatch timer.batchID = ([], started) := by
      subst begins
      exact process_batch_nothing _ timer.batchID (quiet.drained.queue s timer.batchID)
    rw [nothing] at shutting ⊢
    subst begins
    exact ⟨shutting, quiet.returned, ⟨calls, rfl, queues⟩, quiet.live⟩
  | closes _ closing goes =>
    rw [quiet.returned] at goes
    cases goes
  | sweeps order swept marked =>
    rw [quiet.returned] at marked
    cases marked
  | waits order index swept waits pending =>
    obtain ⟨_, rfl⟩ := process_pending_eq s swept order (.wait index) pending
    exact ⟨shutting, quiet.returned, ⟨calls, rfl, queues⟩, quiet.live⟩
  | received w op rest found | left _ w found | answered w cancelled answer op result runs stats found
  | failed w cancelled answer op stats found | retried w receiver op result sent found | completed w op result found =>
    cases quiet.unoccupied s w _ found

end Quiet

def Panics (s : AsyncDB R V) : Prop := ∃ actions after, Runs.run step s actions = some after ∧ after.panicked = true

theorem Panics.earlier (s after : AsyncDB R V) (actions : List (Action R V)) (ran : Runs.run step s actions = some after)
    (panics : after.Panics) : s.Panics := by
  obtain ⟨rest, last, later, panicked⟩ := panics
  exact ⟨actions ++ rest, last, by rw [Runs.run_append, ran]; exact later, panicked⟩

theorem Panics.next (s after : AsyncDB R V) (action : Action R V) (taken : s.step action = some after) (panics : after.Panics) :
    s.Panics :=
  panics.earlier s after [action] (by simp only [Runs.run, taken, Option.bind_some])

theorem enqueue_closed (s : AsyncDB R V) (op : AsyncOperation R V) (returned : s.closing = .returned) :
    s.enqueueOperation none op = some (.error "send on closed channel", { s with panicked := true }) := by
  rw [enqueueOperation]
  exact if_pos (by rw [returned]; rfl)

theorem add_to_batch_leaves (s : AsyncDB R V) (batchID : List UInt8) (op : AsyncOperation R V) (free : s.holder = none) :
    (s.addToBatch batchID op).panicked = s.panicked ∧ (s.addToBatch batchID op).closing = s.closing ∧
      ((s.addToBatch batchID op).handedOver ≠ [] ∨ (s.addToBatch batchID op).holder = none ∧
        ∃ batch, (s.addToBatch batchID op).batchQueues.lookup batchID = some batch ∧ batch ≠ []) := by
  simp only [addToBatch]
  split
  · simp only [processBatch, AList.lookup_insert]
    split
    · contradiction
    · simp at *
    · exact ⟨rfl, rfl, .inl ‹_›⟩
  · split
    · exact ⟨rfl, rfl, .inr ⟨free, _, AList.lookup_insert _, by simp⟩⟩
    · exact ⟨rfl, rfl, .inr ⟨free, _, AList.lookup_insert _, by simp⟩⟩

section Panics

variable (s : AsyncDB R V) (live : s.panicked = false) (returned : s.closing = .returned)

include live returned

theorem handed_over_panics (handed : s.handedOver ≠ []) : s.Panics := by
  cases held : s.holder with
  | none => simp [handedOver, held] at handed
  | some holder =>
    obtain ⟨owner, batch, pending⟩ := holder
    cases batch with
    | nil => simp [handedOver, held] at handed
    | cons op rest =>
      refine ⟨[.send none], { s with holder := some ⟨owner, rest, pending⟩, panicked := true }, ?_, rfl⟩
      have sends : s.step (.send none) = s.send none := if_neg (by simp [live])
      simp only [send, held, enqueue_closed { s with holder := some ⟨owner, rest, pending⟩ } op returned] at sends
      simp only [Runs.run, sends, Option.bind_some]

variable (timed : s.Timed)

include timed

theorem queued_batch_panics (free : s.holder = none) (batchID : List UInt8) (batch : List (AsyncOperation R V))
    (queued : s.batchQueues.lookup batchID = some batch) (waiting : batch ≠ []) : s.Panics := by
  rcases timed.covered batchID batch queued waiting with ⟨ref, entry⟩ | ⟨holder, held, _⟩
  · obtain ⟨actions, after, _, ran, handed, _, closing, still⟩ :=
      running_flushes s timed live free ref batchID batch queued waiting (timed.running batchID ref entry)
    exact (handed_over_panics after still (closing.trans returned) (handed ▸ waiting)).earlier s after actions ran
  · rw [free] at held
    cases held

theorem entering_call_panics (free : s.holder = none) (calling : s.calls ≠ []) : s.Panics := by
  cases calls : s.calls with
  | nil => exact absurd calls calling
  | cons op rest =>
    have found : (s.calls.find? fun other => other.ref == op.ref) = some op := by simp [calls]
    have enters : s.step (.enter op.ref none) = s.enter op.ref none := if_neg (by simp [live])
    simp only [enter, found] at enters
    by_cases batching : ({ s with calls := s.calls.eraseP fun other => other.ref == op.ref } : AsyncDB R V).batches op = true
    · have taken : s.step (.enter op.ref none) =
          some (({ s with calls := s.calls.eraseP fun other => other.ref == op.ref } : AsyncDB R V).addToBatch (getBatchID op.sql) op) := by
        rw [enters, if_pos batching]
        simp only [free]
      have later := step_timed s _ _ timed taken
      obtain ⟨still, closing, waits⟩ := add_to_batch_leaves
        { s with calls := s.calls.eraseP fun other => other.ref == op.ref } (getBatchID op.sql) op free
      refine Panics.next s _ _ taken ?_
      rcases waits with handed | ⟨freed, batch, queued, waiting⟩
      · exact handed_over_panics _ (still.trans live) (closing.trans returned) handed
      · exact queued_batch_panics _ (still.trans live) (closing.trans returned) later freed _ batch queued waiting
    · refine ⟨[.enter op.ref none], { s with
        calls := s.calls.eraseP fun other => other.ref == op.ref
        panicked := true }, ?_, rfl⟩
      rw [if_neg batching, enqueue_closed { s with calls := s.calls.eraseP fun other => other.ref == op.ref } op returned] at enters
      simp only [Runs.run, enters, Option.bind_some]

variable (shutting : s.Shutting)

include shutting

theorem held_panics (owner : Owner) (pending : List (List UInt8)) (held : s.holder = some ⟨owner, [], pending⟩)
    (left : s.calls ≠ [] ∨ ∃ id batch, s.batchQueues.lookup id = some batch ∧ batch ≠ []) : s.Panics := by
  induction pending generalizing s with
  | nil =>
    have other : owner ≠ .close := owner_ne_close s shutting returned _ held
    obtain ⟨after, taken, calls, queues, closing, still, freed⟩ : ∃ after, s.step .advance = some after ∧ after.calls = s.calls ∧
        after.batchQueues = s.batchQueues ∧ after.closing = s.closing ∧ after.panicked = false ∧ after.holder = none := by
      simp only [step, live, Bool.false_eq_true, if_false, advance, held]
      cases owner with
      | close => exact absurd rfl other
      | caller ref | timer | wait index => exact ⟨_, rfl, rfl, rfl, rfl, rfl, rfl⟩
    have later := step_timed s after _ timed taken
    refine Panics.next s after _ taken ?_
    rcases left with calling | ⟨id, batch, queued, waiting⟩
    · exact entering_call_panics after still (closing.trans returned) later freed (calls ▸ calling)
    · exact queued_batch_panics after still (closing.trans returned) later freed id batch (queues ▸ queued) waiting
  | cons batchID pending ih =>
    have taken : s.step .advance =
        some { (s.processBatch batchID).2 with holder := some ⟨owner, (s.processBatch batchID).1, pending⟩ } := by
      simp only [step, live, Bool.false_eq_true, if_false, advance, held]
    have kept : (s.processBatch batchID).2.closing = s.closing ∧ (s.processBatch batchID).2.panicked = s.panicked := by
      simp only [processBatch]
      split <;> exact ⟨rfl, rfl⟩
    refine Panics.next s _ _ taken ?_
    by_cases empty : ∀ batch, s.batchQueues.lookup batchID = some batch → batch = []
    · rw [process_batch_nothing s batchID empty] at taken ⊢
      exact ih _ live returned (step_timed s _ _ timed taken) (Shutting.step s _ _ shutting taken) rfl left
    · push Not at empty
      obtain ⟨batch, queued, waiting⟩ := empty
      refine handed_over_panics _ (kept.2.trans live) (kept.1.trans returned) ?_
      cases batch with
      | nil => exact absurd rfl waiting
      | cons op rest => simp [handedOver, processBatch, queued]

theorem undrained_panics (left : ¬ s.Drained) : s.Panics := by
  by_cases handed : s.handedOver = []
  · have waiting : s.calls ≠ [] ∨ ∃ id batch, s.batchQueues.lookup id = some batch ∧ batch ≠ [] := by
      by_contra none
      push Not at none
      refine left ⟨none.1, handed, fun batch member => ?_⟩
      obtain ⟨id, found⟩ := (AList.mem_values _ _).mp member
      exact none.2 id batch found
    cases held : s.holder with
    | none =>
      rcases waiting with calling | ⟨id, batch, queued, some⟩
      · exact entering_call_panics s live returned timed held calling
      · exact queued_batch_panics s live returned timed held id batch queued some
    | some holder =>
      obtain ⟨owner, batch, pending⟩ := holder
      obtain rfl : batch = [] := by simpa [handedOver, held] using handed
      exact held_panics s live returned timed shutting owner pending held waiting
  · exact handed_over_panics s live returned handed

end Panics

theorem queue_closes (before closed : AsyncDB R V) (order : Shuffle (List UInt8)) (waited : before.closing = .waited)
    (shut : before.step (.closeNext order) = some closed) :
    before.panicked = false ∧ closed = { before with closing := .returned } := by
  simp only [step, closeNext, waited] at shut
  split at shut
  · cases shut
  · rename_i live
    exact ⟨by simpa using live, (Option.some.inj shut).symm⟩

theorem closed_queue_unsent_iff (config : Option AsyncConfig) (before closed : AsyncDB R V) (order : Shuffle (List UInt8))
    (reached : Runs.Reached step (fun _ _ => True) (newAsyncDB config) before) (waited : before.closing = .waited)
    (shut : before.step (.closeNext order) = some closed) :
    (∀ s, Runs.Reached step (fun _ _ => True) closed s → s.panicked = false) ↔ before.Drained := by
  have whole : Runs.Reached step (fun _ _ => True) (newAsyncDB config) closed := .next before _ closed reached trivial shut
  have shutting := (reached_shutting _ config closed whole).1
  have timed := reached_timed _ config closed whole
  obtain ⟨live, rfl⟩ := queue_closes before closed order waited shut
  constructor
  · intro never
    by_contra left
    obtain ⟨actions, after, ran, panicked⟩ := undrained_panics { before with closing := .returned } live rfl timed shutting left
    have calm := never after (Runs.reached_of_run step _ _ _ after actions .start (Runs.run_meets_free step _ _) ran)
    rw [panicked] at calm
    cases calm
  · intro drained s later
    have quiet : s.Quiet := Runs.reached_invariant step _ Quiet _ s ⟨shutting, rfl, drained, live⟩
      (fun before action after quiet _ taken => quiet.step before action after taken) later
    exact quiet.live

def closeWorkers : List (Action Unit Unit) :=
  [.close, .closeNext .listed, .advance, .closeNext .listed, .stop 0, .closeNext .listed]

def completedCall : List (Action Unit Unit) :=
  [.call .exec [] [] none true, .enter 0 (some 0), .process 0 none workingExec, .complete 0]

theorem completed_calls_close_quietly :
    ∃ before closed, Runs.run step (newAsyncDB (some smallConfig)) (completedCall ++ closeWorkers) = some before ∧
      before.step (.closeNext .listed) = some closed ∧ before.accepted = [0] ∧
      ∀ s, Runs.Reached step (fun _ _ => True) closed s → s.panicked = false := by
  have observed : ((Runs.run step (newAsyncDB (some smallConfig)) (completedCall ++ closeWorkers)).bind fun before =>
      (before.step (.closeNext .listed)).map fun _ => (before.accepted, before.closing, before.calls.length, before.handedOver.length,
        before.batchQueues.values.length)) = some ([0], .waited, 0, 0, 0) := by
    decide +kernel
  obtain ⟨before, made, rest⟩ := Option.bind_eq_some_iff.mp observed
  obtain ⟨closed, shut, seen⟩ := Option.map_eq_some_iff.mp rest
  simp only [Prod.mk.injEq, List.length_eq_zero_iff] at seen
  obtain ⟨accepted, waited, calls, handed, queues⟩ := seen
  have reached := Runs.reached_of_run step (fun _ _ => True) _ _ before _ .start (Runs.run_meets_free step _ _) made
  refine ⟨before, closed, made, shut, accepted, ?_⟩
  rw [closed_queue_unsent_iff (some smallConfig) before closed .listed reached waited shut]
  exact ⟨calls, handed, by simp [queues]⟩

theorem late_call_panics :
    (Runs.run step (newAsyncDB (some smallConfig))
      (.call .exec [] [] none true :: closeWorkers ++ [.closeNext .listed, .enter 0 none])).map panicked = some true ∧
    (Runs.run step (newAsyncDB (some smallConfig))
      (insertCall :: closeWorkers ++ [.enter 0 none, .closeNext .listed, .fire 0, .timer 0, .send none])).map panicked = some true := by
  decide +kernel

end MmoServer.Db.Async.AsyncDB
