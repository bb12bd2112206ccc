import MmoServer.Db.AsyncShutdown

set_option autoImplicit false

namespace MmoServer.Db.Async

variable {R V : Type}

def Closing.hasSwept (closing : Closing) : Bool := closing = .swept ∨ closing.stopChanClosed = true

namespace AsyncDB

open Slots

def DrainsFirst (s : AsyncDB R V) : Action R V → Prop
  | .stop _ => s.queue = []
  | _ => True

def Orderly (s : AsyncDB R V) (action : Action R V) : Prop := s.Room action ∧ s.DrainsFirst action

instance decidableDrainsFirst (s : AsyncDB R V) : ∀ action, Decidable (s.DrainsFirst action)
  | .stop _ => decidable_of_iff (s.queue.isEmpty = true) List.isEmpty_iff
  | .call .. | .enter .. | .send _ | .advance | .fire _ | .timer _ | .close | .closeNext _ | .waitForCompletion | .waitNext ..
  | .receive _ | .process .. | .retry .. | .complete _ => isTrue trivial

instance decidableOrderly (s : AsyncDB R V) (action : Action R V) : Decidable (s.Orderly action) :=
  inferInstanceAs (Decidable (_ ∧ _))

section Draining

variable (ref : Nat)

def unswept : Stage → Nat
  | .calling => 1
  | .batched => 1
  | _ => 0

def unanswered : Stage → Nat
  | .ending => 0
  | .completed => 0
  | _ => 1

structure Draining (s : AsyncDB R V) : Prop where
  made : ref < s.nextOperation
  once : total (counted ref fun _ => 1) s.stock ≤ 1
  here : 1 ≤ total (counted ref inside) s.stock
  swept : s.closing.hasSwept = true → total (counted ref unswept) s.stock = 0
  drained : s.workers.all Worker.isStopped = true → total (counted ref unanswered) s.stock = 0

theorem uncalled (s : AsyncDB R V) (once : total (counted ref fun _ => 1) s.stock ≤ 1)
    (here : 1 ≤ total (counted ref inside) s.stock) :
    total (own ref) (s.calls : Multiset (AsyncOperation R V)) = 0 := by
  have workers := inside_le ref (s.workers.flatMap Worker.stock : Multiset (Stage × AsyncOperation R V))
  rw [total_stock] at once here
  simp only [inside] at here
  omega

theorem batched_nothing (s : AsyncDB R V) (free : s.holder = none)
    (empty : ∀ id ops, s.batchQueues.lookup id = some ops → ops = []) :
    s.batched = ([] : List (AsyncOperation R V)) := by
  have idle : s.handedOver = [] := by rw [handedOver, free]; rfl
  have nothing : s.batchQueues.pairs.flatMap Prod.snd = [] := by
    rw [List.flatMap_eq_nil_iff]
    rintro ⟨id, ops⟩ member
    exact empty id ops ((AList.mem_pairs _ _ _).mp member)
  rw [batched, idle, AList.contents, nothing]
  rfl

theorem worker_stock_stage (workers : List (Worker R V)) (entry : Stage × AsyncOperation R V)
    (member : entry ∈ workers.flatMap Worker.stock) : entry.1 = .held ∨ entry.1 = .ending := by
  obtain ⟨worker, _, own⟩ := List.mem_flatMap.mp member
  cases worker with
  | idle | stopped => cases own
  | holding op | retrying op =>
    rw [List.mem_singleton.mp own]
    exact .inl rfl
  | finishing op result =>
    rw [List.mem_singleton.mp own]
    exact .inr rfl

theorem sweep_empties (s : AsyncDB R V) (free : s.holder = none) (empty : ∀ id ops, s.batchQueues.lookup id = some ops → ops = [])
    (once : total (counted ref fun _ => 1) s.stock ≤ 1) (here : 1 ≤ total (counted ref inside) s.stock) :
    total (counted ref unswept) s.stock = 0 := by
  have working : total (counted ref unswept) (s.workers.flatMap Worker.stock : Multiset (Stage × AsyncOperation R V)) = 0 := by
    refine total_eq_zero _ _ fun entry member => ?_
    rcases worker_stock_stage s.workers entry member with held | ending
    · simp [counted, unswept, held]
    · simp [counted, unswept, ending]
  rw [total_stock, batched_nothing s free empty, uncalled ref s once here, working, total_none]
  simp [unswept]

theorem swept_turn (before after : AsyncDB R V) (shutting : before.Shutting) (turn : Turn before after)
    (once : total (counted ref fun _ => 1) after.stock ≤ 1) (here : 1 ≤ total (counted ref inside) after.stock)
    (still : before.closing.hasSwept = true → total (counted ref unswept) after.stock = 0)
    (swept : after.closing.hasSwept = true) : total (counted ref unswept) after.stock = 0 := by
  cases turn with
  | kept _ _ closing | locked _ _ closing | sent _ _ _ _ _ _ _ closing | next _ _ _ _ _ _ _ closing => exact still (closing ▸ swept)
  | released owner was now queues closing =>
    by_cases own : owner = .close
    · subst own
      obtain ⟨_, _, held, covered⟩ := shutting.sweeping (shutting.owner _ was rfl)
      cases was.symm.trans held
      apply sweep_empties ref after now _ once here
      intro id ops found
      by_contra some
      cases covered id ops (queues ▸ found) some
    · rw [closing, if_neg own] at swept
      exact still swept
  | sweeps pending _ _ _ _ _ closing =>
    rw [closing] at swept
    cases swept
  | closes _ _ _ goes =>
    generalize reached : before.closing = source at goes
    generalize after.closing = target at goes swept
    cases goes with
    | call => cases swept
    | stop | wait | queue => exact still (by rw [reached]; rfl)

theorem unanswered_stopped (s : AsyncDB R V) (empty : s.queue = []) (all : s.workers.all Worker.isStopped = true)
    (swept : total (counted ref unswept) s.stock = 0) : total (counted ref unanswered) s.stock = 0 := by
  rw [total_stock] at swept ⊢
  rw [empty, left_stock s.workers all] at swept ⊢
  simp only [unswept, unanswered, total_none] at swept ⊢
  omega

theorem Draining.step (before after : AsyncDB R V) (action : Action R V) (shutting : before.Shutting)
    (draining : before.Draining ref) (orderly : before.Orderly action) (taken : before.step action = some after) :
    after.Draining ref := by
  have turn := step_turn before after action taken
  have stops := step_stops before after action taken
  have made := lt_of_lt_of_le draining.made (next_operation_le before after action taken)
  have once : total (counted ref fun _ => 1) after.stock ≤ 1 :=
    (flow_back ref before after action taken draining.made _ (fun _ _ => le_refl _) (fun _ _ _ => le_refl _) (le_refl _)
      (le_refl _)).trans draining.once
  have here := draining.here.trans (inside_step ref before after action (fun _ _ _ => orderly.1) taken).1
  have unsweptLess : total (counted ref unswept) after.stock ≤ total (counted ref unswept) before.stock := by
    refine flow_back ref before after action taken draining.made unswept ?_ ?_ (le_refl _) (le_refl _)
    · rintro stage (rfl | rfl | rfl) <;> simp [unswept]
    · rintro source target way
      cases way <;> simp [unswept]
  have unansweredLess : total (counted ref unanswered) after.stock ≤ total (counted ref unanswered) before.stock := by
    refine flow_back ref before after action taken draining.made unanswered ?_ ?_ (by simp [unanswered]) (le_refl _)
    · rintro stage (rfl | rfl | rfl) <;> simp [unanswered]
    · rintro source target way
      cases way <;> simp [unanswered]
  have still : before.closing.hasSwept = true → total (counted ref unswept) after.stock = 0 := by
    intro swept
    have nothing := draining.swept swept
    omega
  refine ⟨made, once, here, swept_turn ref before after shutting turn once here still, ?_⟩
  intro all
  by_cases already : before.workers.all Worker.isStopped = true
  · have nothing := draining.drained already
    omega
  · -- The last worker has just left, so the queue is empty.
    have gone := (all_left_iff _).mp all
    rw [all_left_iff] at already
    push Not at already
    obtain ⟨w, within, stays⟩ := already
    rcases stops.fresh w (gone w (stops.count ▸ within)) with earlier | ⟨stopping, reason, same⟩
    · exact absurd earlier stays
    · have empty : after.queue = [] := by
        rcases reason with rfl | nothing
        · rw [same]
          exact orderly.2
        · rw [same, nothing]
      exact unanswered_stopped ref after empty all (still (by simp [Closing.hasSwept, stopping]))

end Draining

theorem reached_shutting (allowed : AsyncDB R V → Action R V → Prop) (config : Option AsyncConfig) (s : AsyncDB R V)
    (reached : Runs.Reached step allowed (newAsyncDB config) s) :
    s.Shutting ∧ s.workers.length = (newAsyncDB config : AsyncDB R V).config.workerCount := by
  refine Runs.reached_invariant step allowed
    (fun s => s.Shutting ∧ s.workers.length = (newAsyncDB config : AsyncDB R V).config.workerCount) _ s ?_ ?_ reached
  · refine ⟨⟨by rintro holder ⟨⟩, by rintro ⟨⟩, fun w left => ?_, by rintro (⟨⟨⟩⟩ | ⟨⟨⟩⟩)⟩, List.length_replicate⟩
    simp only [Left, newAsyncDB, List.getElem?_replicate] at left
    split at left <;> cases left
  · rintro before action after ⟨shutting, count⟩ _ taken
    exact ⟨Shutting.step before after action shutting taken, (step_stops before after action taken).count.trans count⟩

def calling : Stage × AsyncOperation R V → Nat
  | (.calling, _) => 1
  | _ => 0

-- Once Close has set isClosed and no call is between its check and the queues,
-- no call will be accepted but the one that fills a batch just now.
structure Settled (promised : List Nat) (s : AsyncDB R V) : Prop where
  closed : s.closing.isClosed = true
  entered : total calling s.stock = 0
  known : s.promised ⊆ promised

theorem closed_kept (before after : AsyncDB R V) (turn : Turn before after) (closed : before.closing.isClosed = true) :
    after.closing.isClosed = true := by
  cases turn with
  | kept _ _ closing | locked _ _ closing | sent _ _ _ _ _ _ _ closing | next _ _ _ _ _ _ _ closing => rw [closing, closed]
  | released owner _ _ _ closing =>
    rw [closing]
    split
    · rfl
    · exact closed
  | sweeps _ _ _ _ _ _ closing => rw [closing]; rfl
  | closes _ _ _ goes =>
    generalize before.closing = source at goes
    generalize after.closing = target at goes ⊢
    cases goes <;> rfl

theorem Settled.step (promised : List Nat) (before after : AsyncDB R V) (action : Action R V) (settled : before.Settled promised)
    (taken : before.step action = some after) : after.Settled promised := by
  obtain ⟨gone, come, exchange, effect⟩ := step_explained before after action taken
  have balance := exchange.balance calling
  rw [settled.entered] at balance
  have closed := closed_kept before after (step_turn before after action taken) settled.closed
  cases effect with
  | still _ kept | refused _ _ kept | lost _ _ _ _ _ kept =>
    rw [total_none] at balance
    exact ⟨closed, by omega, List.Subset.trans kept settled.known⟩
  | called op _ _ _ _ opened =>
    rw [settled.closed] at opened
    cases opened
  | entered op stage batchID within =>
    have past : calling (stage, { op with batchID := batchID }) = 0 := by
      rcases within with rfl | rfl | rfl <;> rfl
    have present : calling (.calling, op) = 1 := rfl
    rw [total_one, total_one] at balance
    omega
  | passed op source target way _ kept =>
    have past : calling (target, op) = 0 := by cases way <;> rfl
    rw [total_one, total_one] at balance
    exact ⟨closed, by omega, List.Subset.trans kept settled.known⟩
  | retried op _ _ kept | answered op _ _ _ _ kept | finished op _ _ kept =>
    simp only [total_one, calling] at balance
    exact ⟨closed, by omega, List.Subset.trans kept settled.known⟩

theorem close_marks (before closed : AsyncDB R V) (first : before.closing = .notCalled) (called : before.step .close = some closed) :
    closed = { before with closing := .marked } := by
  simp only [step, close, first] at called
  split at called
  · cases called
  · exact (Option.some.inj called).symm

variable (config : Option AsyncConfig) (before closed s : AsyncDB R V)

theorem called_draining (before : AsyncDB R V) (working : 0 < (newAsyncDB config : AsyncDB R V).config.workerCount)
    (reached : Runs.Reached step Orderly (newAsyncDB config) before) (first : before.closing = .notCalled) (ref : Nat)
    (promised : ref ∈ before.promised) : ({ before with closing := .marked } : AsyncDB R V).Draining ref := by
  have here := reached_inside Orderly config before reached ref (fun _ _ orderly _ _ _ => orderly.1) promised
  have once := reached_once Orderly config before reached ref
  obtain ⟨shutting, count⟩ := reached_shutting Orderly config before reached
  have fewer := inside_le ref before.stock
  have same : ({ before with closing := .marked } : AsyncDB R V).stock = before.stock := rfl
  refine ⟨?_, by rw [same]; omega, by rw [same]; omega, by rintro ⟨⟩, fun all => ?_⟩
  · by_contra late
    have reserved : before.record.reserve ref 1 = 1 := if_pos (Nat.le_of_not_lt late)
    omega
  · have left := shutting.left 0 ((all_left_iff before.workers).mp all 0 (count ▸ working))
    rw [first] at left
    cases left

theorem drained_completed (ref : Nat) (s : AsyncDB R V) (draining : s.Draining ref)
    (all : s.workers.all Worker.isStopped = true) : s.HasResult ref := by
  have here := draining.here
  have nothing := draining.drained all
  rw [total_stock, left_stock s.workers all] at here nothing
  simp only [inside, unanswered, total_none] at here nothing
  rw [has_result_iff]
  omega

def HasCompleted (ref : Nat) (s : AsyncDB R V) : Prop :=
  ∃ done ∈ s.completed, done.1.ref = ref ∧ (done.1.callback = true → ref ∈ s.callbacks)

theorem promised_completed (working : 0 < (newAsyncDB config : AsyncDB R V).config.workerCount)
    (reached : Runs.Reached step Orderly (newAsyncDB config) before) (first : before.closing = .notCalled)
    (called : before.step .close = some closed) (later : Runs.Reached step Orderly closed s) (returned : s.closing = .returned) :
    ∀ ref ∈ before.promised, s.HasCompleted ref := by
  intro ref promised
  have whole : Runs.Reached step Orderly (newAsyncDB config) closed :=
    .next before .close closed reached (show before.Orderly .close from ⟨trivial, trivial⟩) called
  obtain ⟨shutting, draining, started⟩ : s.Shutting ∧ s.Draining ref ∧ s.CallbacksStarted := by
    refine Runs.reached_invariant step Orderly (fun s => s.Shutting ∧ s.Draining ref ∧ s.CallbacksStarted) closed s ?_ ?_ later
    · refine ⟨(reached_shutting Orderly config closed whole).1, ?_, reached_callbacks_started Orderly config closed whole⟩
      rw [close_marks before closed first called]
      exact called_draining config before working reached first ref promised
    · rintro before action after ⟨shutting, draining, started⟩ orderly taken
      exact ⟨Shutting.step before after action shutting taken, Draining.step ref before after action shutting draining orderly taken,
        callbacks_started before after action started taken⟩
  obtain ⟨done, member, rfl⟩ := drained_completed ref s draining (shutting.waited (.inr returned))
  exact ⟨done, member, rfl, started done member⟩

theorem settled_accepted (first : before.closing = .notCalled) (called : before.step .close = some closed) (quiet : before.calls = [])
    (later : Runs.Reached step Orderly closed s) : s.accepted ⊆ before.promised := by
  have settled : s.Settled before.promised := by
    refine Runs.reached_invariant step Orderly (Settled before.promised) closed s ?_
      (fun one action two settled _ taken => Settled.step before.promised one two action settled taken) later
    rw [close_marks before closed first called]
    refine ⟨rfl, total_eq_zero _ _ ?_, List.Subset.refl _⟩
    rintro ⟨stage, op⟩ member
    cases stage with
    | calling =>
      have inWorkers : (Stage.calling, op) ∈ before.workers.flatMap Worker.stock := by simpa [stock, quiet] using member
      rcases worker_stock_stage before.workers _ inWorkers with held | ending <;> contradiction
    | batched | queued | held | ending | completed => rfl
  exact fun ref accepted => settled.known (List.mem_append_left _ accepted)

-- Calls that return nil while Close runs are covered when all have passed their
-- closed check and entered a queue by the time Close is called.
theorem close_completes_accepted (config : Option AsyncConfig) (before closed s : AsyncDB R V)
    (working : 0 < (newAsyncDB config : AsyncDB R V).config.workerCount)
    (reached : Runs.Reached step Orderly (newAsyncDB config) before) (first : before.closing = .notCalled)
    (called : before.step .close = some closed) (later : Runs.Reached step Orderly closed s) (returned : s.closing = .returned) :
    (∀ ref ∈ before.accepted, s.HasCompleted ref) ∧ (before.calls = [] → ∀ ref ∈ s.accepted, s.HasCompleted ref) := by
  have completed := promised_completed config before closed s working reached first called later returned
  refine ⟨fun ref accepted => completed ref (List.mem_append_left _ accepted), fun quiet ref accepted => ?_⟩
  exact completed ref (settled_accepted before closed s first called quiet later accepted)

def batchAtClose : List (Action Unit Unit) :=
  [.call .exec [] [] none true, .enter 0 (some 0), insertCall, .enter 1 none]

def sweepAndStop : List (Action Unit Unit) :=
  [.closeNext .listed, .advance, .send none, .advance, .closeNext .listed, .process 0 none workingExec, .complete 0]

def drainAndReturn : List (Action Unit Unit) :=
  [.receive 0, .process 0 none workingExec, .complete 0, .stop 0, .closeNext .listed, .closeNext .listed]

def leaveAndReturn : List (Action Unit Unit) := [.stop 0, .closeNext .listed, .closeNext .listed]

theorem drained_close_completes_both :
    ∃ before closed s, Runs.run step (newAsyncDB (some smallConfig)) batchAtClose = some before ∧
      before.step .close = some closed ∧ Runs.run step closed (sweepAndStop ++ drainAndReturn) = some s ∧
      before.accepted = [0, 1] ∧ s.closing = .returned ∧ ∀ ref ∈ before.accepted, s.HasCompleted ref := by
  have observed : ((Runs.run step (newAsyncDB (some smallConfig)) batchAtClose).bind fun before =>
      (before.step .close).bind fun closed => (Runs.run step closed (sweepAndStop ++ drainAndReturn)).map fun s =>
        (before.accepted, before.closing, s.closing)) = some ([0, 1], .notCalled, .returned) := by
    decide +kernel
  have orderly : ∀ before ∈ Runs.run step (newAsyncDB (some smallConfig)) batchAtClose, ∀ closed ∈ before.step .close,
      Runs.RunMeets step Orderly closed (sweepAndStop ++ drainAndReturn) := by
    decide +kernel
  obtain ⟨before, opened, rest⟩ := Option.bind_eq_some_iff.mp observed
  obtain ⟨closed, called, last⟩ := Option.bind_eq_some_iff.mp rest
  obtain ⟨s, ran, seen⟩ := Option.map_eq_some_iff.mp last
  obtain ⟨accepted, first, returned⟩ : before.accepted = [0, 1] ∧ before.closing = .notCalled ∧ s.closing = .returned := by
    simpa using seen
  have reached := Runs.reached_of_run step Orderly _ _ before batchAtClose .start (by decide +kernel) opened
  have later := Runs.reached_of_run step Orderly closed closed s _ .start (orderly before opened closed called) ran
  exact ⟨before, closed, s, opened, called, ran, accepted, returned,
    close_completes_accepted (some smallConfig) before closed s (by decide) reached first called later returned |>.1⟩

theorem close_leaves_operation_queued :
    (Runs.run step (newAsyncDB (some smallConfig)) batchAtClose).map (fun s => (s.accepted, s.closing)) =
        some ([0, 1], .notCalled) ∧
      (Runs.run step (newAsyncDB (some smallConfig)) (batchAtClose ++ .close :: sweepAndStop ++ leaveAndReturn)).map (fun s =>
        (s.closing, s.callbacks, s.places 1)) = some (.returned, [0], [.workQueue]) := by
  decide +kernel

end AsyncDB

end MmoServer.Db.Async
