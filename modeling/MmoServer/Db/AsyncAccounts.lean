import MmoServer.Db.AsyncSteps

set_option autoImplicit false

namespace MmoServer.Db.Async.AsyncDB

open Slots

variable {R V : Type}

-- What one operation may spend in its life: no step of it costs more than the
-- weight it frees, and it starts with at most the bound.
structure Budget (config : AsyncConfig) (ref bound : Nat) (spent : Record R V → Nat) (w : Stage × AsyncOperation R V → Nat) : Prop where
  fresh : ∀ op, op.retryCount = 0 → w (.calling, op) ≤ if op.ref = ref then bound else 0
  called : ∀ record next, spent { record with nextOperation := next } = spent record
  entered : ∀ op stage batchID, stage = .batched ∨ stage = .queued ∨ stage = .held →
    w (stage, { op with batchID := batchID }) ≤ w (.calling, op)
  passed : ∀ op source target, Passes source target → w (target, op) ≤ w (source, op)
  retried : ∀ record op, (op.retryCount : Int) < config.maxRetries →
    spent { record with executed := record.executed ++ [op.ref] } + w (.held, { op with retryCount := op.retryCount + 1 }) ≤
      spent record + w (.held, op)
  answered : ∀ record op runs, runs ⊆ [op.ref] → runs.length ≤ 1 →
    spent { record with executed := record.executed ++ runs } + w (.ending, op) ≤ spent record + w (.held, op)
  finished : ∀ record op result,
    spent { record with
      completed := record.completed ++ [(op, result)]
      callbacks := if op.callback = true then record.callbacks ++ [op.ref] else record.callbacks } + w (.completed, op) ≤
      spent record + w (.ending, op)

def Record.reserve (ref bound : Nat) (record : Record R V) : Nat := if record.nextOperation ≤ ref then bound else 0

section Budgets

variable {config : AsyncConfig} {ref bound : Nat} {spent : Record R V → Nat} {w : Stage × AsyncOperation R V → Nat}

theorem Budget.within (budget : Budget config ref bound spent w) (before after : AsyncDB R V) (action : Action R V)
    (configured : before.config = config) (taken : before.step action = some after) :
    after.config = config ∧
      spent after.record + after.record.reserve ref bound + total w after.stock ≤
        spent before.record + before.record.reserve ref bound + total w before.stock := by
  obtain ⟨gone, come, exchange, effect⟩ := step_explained before after action taken
  have balance := exchange.balance w
  have paid : ∀ record : Record R V, after.record = record → record.config = before.config →
      record.nextOperation = before.nextOperation →
      spent record + total w (come : Multiset _) ≤ spent before.record + total w (gone : Multiset _) →
      after.config = config ∧ spent after.record + after.record.reserve ref bound + total w after.stock ≤
        spent before.record + before.record.reserve ref bound + total w before.stock := by
    rintro _ rfl sameConfig sameNext cost
    have reserve : after.record.reserve ref bound = before.record.reserve ref bound := by
      rw [Record.reserve, sameNext]
      rfl
    exact ⟨sameConfig.trans configured, by omega⟩
  cases effect with
  | still record => exact paid _ record rfl rfl (le_refl _)
  | called op fresh untried record =>
    have small := budget.fresh op untried
    rw [← configured, record, budget.called]
    simp only [total_one, total_none, Record.reserve, ← fresh] at balance ⊢
    refine ⟨congrArg Record.config record, ?_⟩
    split_ifs at small ⊢ <;> omega
  | refused op record | lost op stage _ _ record => exact paid _ record rfl rfl (Nat.le_add_right _ _)
  | entered op stage batchID inside record =>
    exact paid _ record rfl rfl (Nat.add_le_add_left (budget.entered op stage batchID inside) _)
  | passed op source target way record =>
    exact paid _ record rfl rfl (Nat.add_le_add_left (budget.passed op source target way) _)
  | retried op again record => exact paid _ record rfl rfl (budget.retried before.record op (configured ▸ again))
  | answered op runs own once record => exact paid _ record rfl rfl (budget.answered before.record op runs own once)
  | finished op result record => exact paid _ record rfl rfl (budget.finished before.record op result)

theorem fresh_stock (asked : Option AsyncConfig) : (newAsyncDB asked : AsyncDB R V).stock = 0 := by
  have idle : ∀ count : Nat, (List.replicate count (Worker.idle : Worker R V)).flatMap Worker.stock = [] := by
    intro count
    rw [List.flatMap_eq_nil_iff]
    intro worker member
    rw [List.eq_of_mem_replicate member]
    rfl
  simp only [stock, batched, handedOver, newAsyncDB, idle]
  rfl

theorem Budget.kept (budget : Budget config ref bound spent w) (allowed : AsyncDB R V → Action R V → Prop)
    (asked : Option AsyncConfig) (s : AsyncDB R V) (configured : (newAsyncDB asked : AsyncDB R V).config = config)
    (unspent : spent (newAsyncDB asked : AsyncDB R V).record = 0)
    (reached : Runs.Reached step allowed (newAsyncDB asked) s) :
    spent s.record + s.record.reserve ref bound + total w s.stock ≤ bound := by
  have all : s.config = config ∧ spent s.record + s.record.reserve ref bound + total w s.stock ≤ bound := by
    refine Runs.reached_invariant step allowed
      (fun s => s.config = config ∧ spent s.record + s.record.reserve ref bound + total w s.stock ≤ bound) _ s ?_ ?_ reached
    · have empty : total w (newAsyncDB asked : AsyncDB R V).stock = 0 := by
        rw [fresh_stock]
        rfl
      refine ⟨configured, ?_⟩
      rw [unspent, empty, Record.reserve]
      split <;> omega
    · rintro before action after ⟨same, small⟩ _ taken
      obtain ⟨still, less⟩ := budget.within before after action same taken
      exact ⟨still, less.trans small⟩
  exact all.2

end Budgets

section Uses

variable (ref : Nat)

def counted (stages : Stage → Nat) (entry : Stage × AsyncOperation R V) : Nat :=
  if (entry.2.ref == ref) = true then stages entry.1 else 0

theorem flow_budget (config : AsyncConfig) (stages : Stage → Nat)
    (entered : ∀ stage, stage = .batched ∨ stage = .queued ∨ stage = .held → stages stage ≤ stages .calling)
    (passed : ∀ source target, Passes source target → stages target ≤ stages source)
    (answered : stages .ending ≤ stages .held) (finished : stages .completed ≤ stages .ending) :
    Budget config ref (stages .calling) (fun _ : Record R V => 0) (counted ref stages) where
  fresh op _ := by
    simp only [counted, beq_iff_eq]
    exact le_refl _
  called _ _ := rfl
  entered op stage batchID inside := by
    have less := entered stage inside
    simp only [counted]
    split <;> omega
  passed op source target way := by
    have less := passed source target way
    simp only [counted]
    split <;> omega
  retried _ _ _ := le_refl _
  answered _ op _ _ _ := by
    simp only [counted]
    split <;> omega
  finished _ op _ := by
    simp only [counted]
    split <;> omega

theorem flow_back (before after : AsyncDB R V) (action : Action R V) (taken : before.step action = some after)
    (made : ref < before.nextOperation) (stages : Stage → Nat)
    (entered : ∀ stage, stage = .batched ∨ stage = .queued ∨ stage = .held → stages stage ≤ stages .calling)
    (passed : ∀ source target, Passes source target → stages target ≤ stages source)
    (answered : stages .ending ≤ stages .held) (finished : stages .completed ≤ stages .ending) :
    total (counted ref stages) after.stock ≤ total (counted ref stages) before.stock := by
  obtain ⟨_, less⟩ := (flow_budget ref before.config stages entered passed answered finished).within before after action rfl taken
  have unreserved : before.record.reserve ref (stages .calling) = 0 := if_neg (Nat.not_le.mpr made)
  omega

theorem next_operation_le (before after : AsyncDB R V) (action : Action R V) (taken : before.step action = some after) :
    before.nextOperation ≤ after.nextOperation := by
  have same : after.nextOperation = after.record.nextOperation := rfl
  obtain ⟨gone, come, _, effect⟩ := step_explained before after action taken
  cases effect with
  | still record | refused _ record | entered _ _ _ _ record | passed _ _ _ _ record | lost _ _ _ _ record | retried _ _ record
  | answered _ _ _ _ record | finished _ _ record =>
    rw [same, record]
    exact le_refl _
  | called _ _ _ record =>
    rw [same, record]
    exact Nat.le_succ _

def uncompleted : Stage → Nat
  | .completed => 0
  | _ => 1

theorem callback_budget (config : AsyncConfig) :
    Budget config ref 1 (fun record : Record R V => record.callbacks.count ref) (counted ref uncompleted) where
  fresh op _ := by
    simp only [counted, beq_iff_eq]
    exact le_refl _
  called _ _ := rfl
  entered op stage batchID inside := by
    rcases inside with rfl | rfl | rfl <;> exact le_refl _
  passed op source target way := by
    cases way <;> exact le_refl _
  retried _ _ _ := le_refl _
  answered _ _ _ _ _ := le_refl _
  finished record op _ := by
    simp only [counted, uncompleted, beq_iff_eq]
    by_cases own : op.ref = ref <;> cases op.callback <;> simp [own, List.count_append]

def runsLeft (maxRetries : Int) (entry : Stage × AsyncOperation R V) : Nat :=
  match entry.1 with
  | .ending => 0
  | .completed => 0
  | _ => if (entry.2.ref == ref) = true then (maxRetries - entry.2.retryCount).toNat + 1 else 0

theorem run_budget (config : AsyncConfig) :
    Budget config ref (config.maxRetries.toNat + 1) (fun record : Record R V => record.executed.count ref)
      (runsLeft ref config.maxRetries) where
  fresh op untried := by
    simp only [runsLeft, beq_iff_eq, untried]
    split <;> simp
  called _ _ := rfl
  entered op stage batchID inside := by
    rcases inside with rfl | rfl | rfl <;> exact le_refl _
  passed op source target way := by
    cases way <;> exact le_refl _
  retried record op again := by
    by_cases own : op.ref = ref
    · simp only [runsLeft, own, beq_self_eq_true, if_true, List.count_append, List.count_singleton_self]
      omega
    · simp [runsLeft, own, List.count_append]
  answered record op runs own once := by
    by_cases same : op.ref = ref
    · have few : runs.count ref ≤ 1 := List.count_le_length.trans once
      simp only [runsLeft, same, beq_self_eq_true, if_true, List.count_append]
      omega
    · have unrun : runs.count ref = 0 :=
        List.count_eq_zero.mpr fun member => same (List.mem_singleton.mp (own member)).symm
      simp [runsLeft, List.count_append, unrun]
  finished _ _ _ := le_refl _

end Uses

section Totals

variable (ref : Nat) (stages : Stage → Nat) (s : AsyncDB R V)

def own (op : AsyncOperation R V) : Nat := if (op.ref == ref) = true then 1 else 0

theorem own_count (items : List (AsyncOperation R V)) :
    total (own ref) (items : Multiset (AsyncOperation R V)) = items.countP fun op => op.ref == ref :=
  total_count (own ref) (fun op => op.ref == ref) items fun _ _ => rfl

theorem total_stage (stage : Stage) (items : Multiset (AsyncOperation R V)) :
    total (counted ref stages) (items.map (Prod.mk stage)) = stages stage * total (own ref) items := by
  rw [total_map, total, total, ← Multiset.sum_map_mul_left]
  congr 1
  apply Multiset.map_congr rfl
  intro op _
  simp only [counted, own]
  split <;> simp

theorem total_stock :
    total (counted ref stages) s.stock =
      stages .calling * total (own ref) (s.calls : Multiset (AsyncOperation R V)) + stages .batched * total (own ref) s.batched +
        stages .queued * total (own ref) (s.queue : Multiset (AsyncOperation R V)) +
        total (counted ref stages) (s.workers.flatMap Worker.stock : Multiset (Stage × AsyncOperation R V)) +
        stages .completed * total (own ref) (s.completed.map Prod.fst : Multiset (AsyncOperation R V)) := by
  simp only [stock, total_add, total_stage]

def HasResult : Prop := ∃ done ∈ s.completed, done.1.ref = ref

theorem has_result_iff :
    s.HasResult ref ↔ 0 < total (own ref) (s.completed.map Prod.fst : Multiset (AsyncOperation R V)) := by
  rw [own_count, List.countP_pos_iff]
  simp [HasResult]

end Totals

theorem callback_once_runs_bounded (config : Option AsyncConfig) (s : AsyncDB R V)
    (retries : 0 ≤ (newAsyncDB config : AsyncDB R V).config.maxRetries)
    (reached : Runs.Reached step (fun _ _ => True) (newAsyncDB config) s) :
    ∀ ref, s.callbacks.count ref ≤ 1 ∧
      (s.executed.count ref : Int) ≤ (newAsyncDB config : AsyncDB R V).config.maxRetries + 1 := by
  intro ref
  have callbacks := (callback_budget ref _).kept _ config s rfl rfl reached
  have runs := (run_budget ref _).kept _ config s rfl rfl reached
  have once : s.callbacks.count ref ≤ 1 := (Nat.le_add_right _ _).trans ((Nat.le_add_right _ _).trans callbacks)
  have within : s.executed.count ref ≤ (newAsyncDB config : AsyncDB R V).config.maxRetries.toNat + 1 :=
    (Nat.le_add_right _ _).trans ((Nat.le_add_right _ _).trans runs)
  exact ⟨once, by omega⟩

def smallConfig : AsyncConfig where
  queueSize := 1
  workerCount := 1
  maxRetries := 3
  enableBatching := true
  batchSize := 2

def insertCall : Action Unit Unit := .call .exec insertText [] none true

def failingExec : Answer Unit := ⟨.error "timeout", .error "timeout"⟩

def workingExec : Answer Unit := ⟨.ok (), .ok 1⟩

def retriedInsert : List (Action Unit Unit) :=
  [insertCall, .enter 0 none, .fire 0, .timer 0, .send (some 0), .advance, .process 0 none failingExec, .retry 0 none,
    insertCall, .enter 1 none, .receive 0, .process 0 none workingExec, .complete 0]

theorem retried_insert_runs_twice :
    ∃ s, Runs.run step (newAsyncDB (some smallConfig)) retriedInsert = some s ∧ s.executed = [0, 0] ∧ s.callbacks = [0] ∧
      ∀ ref, s.callbacks.count ref ≤ 1 ∧ (s.executed.count ref : Int) ≤ 3 + 1 := by
  have observed : (Runs.run step (newAsyncDB (some smallConfig)) retriedInsert).map (fun s => (s.executed, s.callbacks)) =
      some ([0, 0], [0]) := by
    decide +kernel
  obtain ⟨s, ran, seen⟩ := Option.map_eq_some_iff.mp observed
  have reached := Runs.reached_of_run step (fun _ _ => True) _ _ s retriedInsert .start (by decide +kernel) ran
  exact ⟨s, ran, (Prod.mk.inj seen).1, (Prod.mk.inj seen).2, callback_once_runs_bounded (some smallConfig) s (by decide) reached⟩

inductive Place where
  | batchQueue
  | workQueue
  | worker
  | completed
deriving DecidableEq, Repr

def places (s : AsyncDB R V) (ref : Nat) : List Place :=
  let own := fun op : AsyncOperation R V => op.ref == ref
  List.replicate ((s.batchQueues.pairs.flatMap Prod.snd ++ s.handedOver).countP own) .batchQueue ++
    List.replicate (s.queue.countP own) .workQueue ++
    List.replicate ((s.workers.flatMap Worker.stock).countP fun entry => own entry.2) .worker ++
    List.replicate ((s.completed.map Prod.fst).countP own) .completed

def inside : Stage → Nat
  | .calling => 0
  | _ => 1

variable (s : AsyncDB R V) (ref : Nat)

theorem inside_le (items : Multiset (Stage × AsyncOperation R V)) :
    total (counted ref inside) items ≤ total (counted ref fun _ => 1) items := by
  apply total_le
  rintro ⟨stage, op⟩
  cases stage <;> simp only [counted, inside] <;> split <;> omega

theorem workers_count :
    total (counted ref inside) (s.workers.flatMap Worker.stock : Multiset (Stage × AsyncOperation R V)) =
      (s.workers.flatMap Worker.stock).countP fun entry => entry.2.ref == ref := by
  refine total_count _ _ _ fun entry member => ?_
  obtain ⟨worker, _, own⟩ := List.mem_flatMap.mp member
  cases worker <;> simp only [Worker.stock, List.mem_singleton, List.not_mem_nil] at own <;> subst own <;> rfl

theorem batched_list : s.batched = (s.batchQueues.pairs.flatMap Prod.snd ++ s.handedOver : List (AsyncOperation R V)) := by
  rw [← Multiset.coe_add]
  rfl

theorem places_length : (s.places ref).length = total (counted ref inside) s.stock := by
  rw [total_stock, batched_list, workers_count, own_count, own_count, own_count, own_count]
  simp only [places, inside, List.length_append, List.length_replicate]
  omega

def Spares (ref : Nat) (s : AsyncDB R V) (action : Action R V) : Prop :=
  ∀ op ∈ s.offering action, op.ref = ref → s.Room action

theorem inside_step (before after : AsyncDB R V) (action : Action R V) (spares : before.Spares ref action)
    (taken : before.step action = some after) :
    total (counted ref inside) before.stock ≤ total (counted ref inside) after.stock ∧
      (ref ∈ after.promised → ref ∈ before.promised ∨ 1 ≤ total (counted ref inside) after.stock) := by
  obtain ⟨gone, come, exchange, effect⟩ := step_explained before after action taken
  have balance := exchange.balance (counted ref inside)
  have outside : ∀ op : AsyncOperation R V, counted ref inside (.calling, op) = 0 := by simp [counted, inside]
  have kept : after.promised ⊆ before.promised →
      total (counted ref inside) (gone : Multiset (Stage × AsyncOperation R V)) ≤
        total (counted ref inside) (come : Multiset (Stage × AsyncOperation R V)) →
      total (counted ref inside) before.stock ≤ total (counted ref inside) after.stock ∧
        (ref ∈ after.promised → ref ∈ before.promised ∨ 1 ≤ total (counted ref inside) after.stock) := by
    intro kept less
    refine ⟨?_, fun promised => .inl (kept promised)⟩
    omega
  cases effect with
  | still _ promised => exact kept promised (le_refl _)
  | called op _ _ _ promised => exact kept promised (Nat.zero_le _)
  | refused op _ promised => exact kept promised (outside op).le
  | entered op stage batchID within _ promised =>
    rw [total_one, total_one, outside] at balance
    refine ⟨by omega, fun now => ?_⟩
    rcases List.mem_cons.mp (promised now) with own | old
    · have here : counted ref inside (stage, { op with batchID := batchID }) = 1 := by
        rcases within with rfl | rfl | rfl <;> simp [counted, inside, own]
      exact .inr (by omega)
    · exact .inl old
  | passed op source target way _ promised => exact kept promised (by cases way <;> exact le_refl _)
  | lost op stage offered noRoom _ promised =>
    have other : op.ref ≠ ref := fun own => noRoom (spares op offered own)
    exact kept promised (by rw [total_one, counted, if_neg (by simpa using other)]; exact Nat.zero_le _)
  | retried op _ _ promised | answered op runs _ _ _ promised | finished op result _ promised => exact kept promised (le_refl _)

def CallbacksStarted (s : AsyncDB R V) : Prop :=
  ∀ done ∈ s.completed, done.1.callback = true → done.1.ref ∈ s.callbacks

theorem callbacks_started (before after : AsyncDB R V) (action : Action R V) (started : before.CallbacksStarted)
    (taken : before.step action = some after) : after.CallbacksStarted := by
  have same : ∀ record : Record R V, after.record = record → record.completed = before.completed →
      record.callbacks = before.callbacks → after.CallbacksStarted := by
    intro record kept completed callbacks
    have nowCompleted : after.completed = before.completed := (congrArg Record.completed kept).trans completed
    have nowCallbacks : after.callbacks = before.callbacks := (congrArg Record.callbacks kept).trans callbacks
    rw [CallbacksStarted, nowCompleted, nowCallbacks]
    exact started
  obtain ⟨gone, come, _, effect⟩ := step_explained before after action taken
  cases effect with
  | still record | called op _ _ record | refused op record | entered op stage batchID _ record
  | passed op source target _ record | lost op stage _ _ record | retried op _ record | answered op runs _ _ record =>
    exact same _ record rfl rfl
  | finished op result record =>
    have completed : after.completed = before.completed ++ [(op, result)] := congrArg Record.completed record
    have callbacks : after.callbacks = if op.callback = true then before.callbacks ++ [op.ref] else before.callbacks :=
      congrArg Record.callbacks record
    intro done member wanted
    rw [callbacks]
    rw [completed, List.mem_append, List.mem_singleton] at member
    rcases member with old | rfl
    · have known := started done old wanted
      split
      · exact List.mem_append_left _ known
      · exact known
    · rw [if_pos wanted]
      simp

section Runs

variable (allowed : AsyncDB R V → Action R V → Prop) (config : Option AsyncConfig) (s : AsyncDB R V)
  (reached : Runs.Reached step allowed (newAsyncDB config) s)

include reached

theorem reached_callbacks_started : s.CallbacksStarted :=
  Runs.reached_invariant step allowed CallbacksStarted _ s (by rintro done ⟨⟩)
    (fun before action after all _ taken => callbacks_started before after action all taken) reached

theorem reached_once (ref : Nat) : s.record.reserve ref 1 + total (counted ref fun _ => 1) s.stock ≤ 1 := by
  have kept := (flow_budget ref _ (fun _ => 1) (fun _ _ => le_refl _) (fun _ _ _ => le_refl _) (le_refl _) (le_refl _)).kept
    allowed config s rfl rfl reached
  omega

theorem reached_inside (ref : Nat) (careful : ∀ s action, allowed s action → s.Spares ref action) (promised : ref ∈ s.promised) :
    total (counted ref inside) s.stock = 1 := by
  have some : ref ∈ s.promised → 1 ≤ total (counted ref inside) s.stock := by
    refine Runs.reached_invariant step allowed (fun s => ref ∈ s.promised → 1 ≤ total (counted ref inside) s.stock) _ s
      (by rintro ⟨⟩) (fun before action after known meets taken promised => ?_) reached
    obtain ⟨more, origin⟩ := inside_step ref before after action (careful before action meets) taken
    rcases origin promised with old | here
    · exact (known old).trans more
    · exact here
  have once := reached_once allowed config s reached ref
  have fewer := inside_le ref s.stock
  have here := some promised
  omega

end Runs

theorem accepted_operation_accounted (config : Option AsyncConfig) (s : AsyncDB R V)
    (reached : Runs.Reached step Room (newAsyncDB config) s) :
    ∀ ref ∈ s.accepted, (∃ place, s.places ref = [place]) ∧
      ∀ done ∈ s.completed, done.1.ref = ref → done.1.callback = true → ref ∈ s.callbacks := by
  intro ref accepted
  have here := reached_inside Room config s reached ref (fun _ _ room _ _ _ => room) (List.mem_append_left _ accepted)
  refine ⟨List.length_eq_one_iff.mp (by rw [places_length, here]), ?_⟩
  rintro done member rfl wanted
  exact reached_callbacks_started Room config s reached done member wanted

theorem retried_insert_accounted :
    ∃ s, Runs.run step (newAsyncDB (some smallConfig)) retriedInsert = some s ∧ s.accepted = [0, 1] ∧
      s.places 0 = [.completed] ∧ ∃ place, s.places 1 = [place] := by
  have observed : (Runs.run step (newAsyncDB (some smallConfig)) retriedInsert).map (fun s => (s.accepted, s.places 0)) =
      some ([0, 1], [.completed]) := by
    decide +kernel
  obtain ⟨s, ran, seen⟩ := Option.map_eq_some_iff.mp observed
  obtain ⟨accepted, place⟩ := Prod.mk.inj seen
  have reached := Runs.reached_of_run step Room _ _ s retriedInsert .start (by decide +kernel) ran
  have known : 1 ∈ s.accepted := by
    rw [accepted]
    decide
  exact ⟨s, ran, accepted, place, (accepted_operation_accounted (some smallConfig) s reached 1 known).1⟩

def fullBatch : List (Action Unit Unit) :=
  [insertCall, insertCall, .enter 0 none, .enter 1 none, .send none, .send none, .advance]

theorem full_queue_loses_operation :
    (Runs.run step (newAsyncDB (some smallConfig)) fullBatch).map (fun s => (s.closing, s.accepted, s.places 0, s.places 1)) =
      some (.notCalled, [0, 1], [.workQueue], []) := by
  decide +kernel

end MmoServer.Db.Async.AsyncDB
