import MmoServer.Db.AsyncAccounts

set_option autoImplicit false

namespace MmoServer.Db.Async.AsyncDB

variable {R V : Type}

section Lost

variable (ref : Nat)

theorem unsent_lost (before after : AsyncDB R V) (action : Action R V) (op : AsyncOperation R V)
    (taken : before.step action = some after) (offered : before.offering action = some op) (noRoom : ¬ before.Room action) :
    ∃ stage, before.stock = (stage, op) ::ₘ after.stock := by
  simp only [step] at taken
  split at taken
  · cases taken
  · cases action with
    | send receiver =>
      simp only [send] at taken
      split at taken
      · rename_i owner first batch pending held
        obtain rfl : first = op := by simpa [offering, handedOver, held] using offered
        split at taken <;> cases taken
        obtain ⟨_, can, _⟩ | ⟨_, same, _⟩ := (enqueue_offered _ _ _ _ _ ‹_›).stock
        · exact absurd can noRoom
        · exact ⟨.batched, by rw [same, ← handed_over_stock before owner first batch pending held]⟩
      · cases taken
    | retry w receiver =>
      simp only [retry] at taken
      split at taken
      · rename_i failed found
        obtain rfl : failed = op := by simpa [offering, found] using offered
        split at taken <;> cases taken
        have kept := enqueue_offered _ _ _ _ _ ‹_›
        obtain ⟨_, can, _⟩ | ⟨_, same, _⟩ := kept.stock
        · exact absurd can noRoom
        · have put := (Slots.exchange_gone _ _ _).mp (worker_exchange _ w (.retrying failed) .idle (kept.busy w _ found rfl))
          exact ⟨.held, by rw [← same, put]⟩
      · cases taken
    | _ => cases offered

theorem gone_stays (s final : AsyncDB R V) (actions : List (Action R V)) (made : ref < s.nextOperation)
    (gone : Slots.total (counted ref fun _ => 1) s.stock = 0) (ran : Runs.run step s actions = some final) :
    Slots.total (counted ref fun _ => 1) final.stock = 0 := by
  have both : ref < final.nextOperation ∧ Slots.total (counted ref fun _ => 1) final.stock = 0 := by
    refine Runs.run_invariant step (fun s => ref < s.nextOperation ∧ Slots.total (counted ref fun _ => 1) s.stock = 0) s final actions
      ⟨made, gone⟩ ?_ ran
    rintro before action after ⟨made, gone⟩ taken
    have back := flow_back ref before after action taken made (fun _ => 1) (fun _ _ => le_refl _) (fun _ _ _ => le_refl _)
      (le_refl _) (le_refl _)
    exact ⟨lt_of_lt_of_le made (next_operation_le before after action taken), by omega⟩
  exact both.2

theorem result_spared (s final : AsyncDB R V) (actions : List (Action R V))
    (once : s.record.reserve ref 1 + Slots.total (counted ref fun _ => 1) s.stock ≤ 1)
    (ran : Runs.run step s actions = some final) (done : final.HasResult ref) : Runs.RunMeets step (Spares ref) s actions := by
  induction actions generalizing s with
  | nil => trivial
  | cons action rest ih =>
    obtain ⟨after, taken, later⟩ := Option.bind_eq_some_iff.mp ran
    refine ⟨?_, fun other same => ?_⟩
    · rintro op offered rfl
      by_contra noRoom
      obtain ⟨stage, lost⟩ := unsent_lost s after action op taken offered noRoom
      have counts : Slots.total (counted op.ref fun _ => 1) s.stock = 1 + Slots.total (counted op.ref fun _ => 1) after.stock := by
        rw [lost, Slots.total_cons]
        simp [counted]
      have made : op.ref < s.nextOperation := by
        by_contra late
        have reserved : s.record.reserve op.ref 1 = 1 := if_pos (Nat.le_of_not_lt late)
        omega
      have nothing := gone_stays op.ref after final rest (lt_of_lt_of_le made (next_operation_le s after action taken)) (by omega) later
      have some := (has_result_iff op.ref final).mp done
      rw [total_stock] at nothing
      omega
    · rw [Option.mem_def, taken, Option.some_inj] at same
      subst same
      have less := ((flow_budget ref s.config (fun _ => 1) (fun _ _ => le_refl _) (fun _ _ _ => le_refl _) (le_refl _)
        (le_refl _)).within s after action rfl taken).2
      exact ih after (by omega) later

end Lost

section Sample

variable (ready s : AsyncDB R V) (order : Shuffle (List UInt8)) (index : Nat)

theorem sample_empty (polls : ready.waits[index]? = some .polling) (taken : ready.step (.waitNext order index) = some s)
    (returns : s.waits[index]? = some .done) :
    ready.queue = [] ∧ ready.batchQueues = ∅ ∧ s.completed = ready.completed := by
  simp only [step] at taken
  split at taken
  · cases taken
  · simp only [waitNext, polls] at taken
    split at taken <;> cases taken
    · rename_i empty
      exact ⟨List.length_eq_zero_iff.mp empty.1, AList.ext (List.length_eq_zero_iff.mp empty.2), rfl⟩
    · rw [polls] at returns
      cases returns

theorem in_no_hands (ref : Nat) : Place.worker ∉ s.places ref ∧ Place.batchQueue ∉ s.places ref ↔
    Slots.total (counted ref inside) (s.workers.flatMap Worker.stock : Multiset (Stage × AsyncOperation R V)) = 0 ∧
      Slots.total (own ref) s.batched = 0 := by
  rw [workers_count, batched_list, own_count]
  simp [places, List.mem_replicate]

end Sample

-- The condition: no step drops one of these operations for want of room.
def DropsNone (refs : List Nat) (s : AsyncDB R V) (action : Action R V) : Prop := ∀ ref ∈ refs, s.Spares ref action

instance decidableDropsNone (refs : List Nat) (s : AsyncDB R V) (action : Action R V) : Decidable (s.DropsNone refs action) :=
  inferInstanceAs (Decidable (∀ ref ∈ refs, ∀ op ∈ s.offering action, op.ref = ref → s.Room action))

-- The call samples the two containers, which do not show the operations that are
-- in the hands of a worker or of processBatch, nor those that were dropped.
theorem wait_completes_iff (config : Option AsyncConfig) (past later : List (Action R V)) (before ready s : AsyncDB R V)
    (order : Shuffle (List UInt8)) (made : Runs.run step (newAsyncDB config) past = some before)
    (waited : Runs.run step before (.waitForCompletion :: later) = some ready)
    (polls : ready.waits[before.waits.length]? = some .polling)
    (sampled : ready.step (.waitNext order before.waits.length) = some s)
    (returns : s.waits[before.waits.length]? = some .done) :
    (∀ ref ∈ before.accepted, s.HasResult ref) ↔
      Runs.RunMeets step (DropsNone before.accepted) (newAsyncDB config) (past ++ .waitForCompletion :: later) ∧
        ∀ ref ∈ before.accepted, Place.worker ∉ ready.places ref ∧ Place.batchQueue ∉ ready.places ref := by
  obtain ⟨queue, _, completed⟩ := sample_empty ready s order _ polls sampled returns
  have same : ∀ ref, s.HasResult ref ↔ ready.HasResult ref := fun ref => by rw [HasResult, HasResult, completed]
  have whole : Runs.run step (newAsyncDB config) (past ++ .waitForCompletion :: later) = some ready := by
    rw [Runs.run_append, made]
    exact waited
  have each := Runs.run_meets_each step before.accepted (fun ref s action => s.Spares ref action) (newAsyncDB config)
    (past ++ .waitForCompletion :: later)
  constructor
  · intro results
    refine ⟨each.mpr fun ref accepted => ?_, fun ref accepted => ?_⟩
    · exact result_spared ref _ ready _ (reached_once (fun _ _ => True) config _ .start ref) whole ((same ref).mp (results ref accepted))
    · have done := (has_result_iff ref ready).mp ((same ref).mp (results ref accepted))
      have once := reached_once _ config ready (Runs.reached_of_run step (fun _ _ => True) _ _ ready _ .start
        (Runs.run_meets_free step _ _) whole) ref
      have workers := inside_le ref (ready.workers.flatMap Worker.stock : Multiset (Stage × AsyncOperation R V))
      rw [in_no_hands]
      rw [total_stock] at once
      omega
  · rintro ⟨kept, hands⟩ ref accepted
    obtain ⟨first, second⟩ := (Runs.run_meets_append step _ _ past _).mp (each.mp kept ref accepted)
    have reached := Runs.reached_of_run step (fun s action => s.Spares ref action) _ _ before past .start first made
    have promised := reached_inside _ config before reached ref (fun _ _ spares => spares) (List.mem_append_left _ accepted)
    have here : 1 ≤ Slots.total (counted ref inside) ready.stock := by
      refine Runs.reached_invariant step (fun s action => s.Spares ref action)
        (fun s => 1 ≤ Slots.total (counted ref inside) s.stock) before ready promised.ge (fun before action after here spares taken => ?_)
        (Runs.reached_of_run step _ before before ready _ .start (second before made) waited)
      exact here.trans (inside_step ref before after action spares taken).1
    obtain ⟨working, batching⟩ := (in_no_hands ready ref).mp (hands ref accepted)
    rw [total_stock, working, batching, queue, Slots.total_none] at here
    rw [same, has_result_iff]
    simp only [inside] at here
    omega

def execCall : List (Action Unit Unit) := [.call .exec [] [] none true, .enter 0 (some 0)]

def runAndComplete : List (Action Unit Unit) := [.process 0 none workingExec, .complete 0]

def sweep : List (Action Unit Unit) := [.waitNext .listed 0, .advance]

theorem completed_before_sample :
    ∃ before ready s, Runs.run step (newAsyncDB (some smallConfig)) execCall = some before ∧
      Runs.run step before (.waitForCompletion :: (sweep ++ runAndComplete)) = some ready ∧
      ready.step (.waitNext .listed 0) = some s ∧ s.waits = [.done] ∧ before.accepted = [0] ∧
      ∀ ref ∈ before.accepted, s.HasResult ref := by
  have observed : ((Runs.run step (newAsyncDB (some smallConfig)) execCall).bind fun before =>
      (Runs.run step before (.waitForCompletion :: (sweep ++ runAndComplete))).bind fun ready =>
        (ready.step (.waitNext .listed 0)).map fun s =>
          (before.accepted, before.waits.length, ready.waits, s.waits, ready.places 0)) =
      some ([0], 0, [.polling], [.done], [.completed]) := by
    decide +kernel
  obtain ⟨before, made, rest⟩ := Option.bind_eq_some_iff.mp observed
  obtain ⟨ready, waited, last⟩ := Option.bind_eq_some_iff.mp rest
  obtain ⟨s, sampled, seen⟩ := Option.map_eq_some_iff.mp last
  simp only [Prod.mk.injEq] at seen
  obtain ⟨accepted, first, polls, returns, place⟩ := seen
  refine ⟨before, ready, s, made, waited, sampled, returns, accepted, ?_⟩
  rw [wait_completes_iff (some smallConfig) execCall (sweep ++ runAndComplete) before ready s .listed made waited
    (by rw [first, polls]; rfl) (by rw [first, sampled]) (by rw [first, returns]; rfl), accepted]
  refine ⟨by decide +kernel, fun ref only => ?_⟩
  rw [List.mem_singleton.mp only, place]
  decide

theorem wait_returns_before_completion :
    (Runs.run step (newAsyncDB (some smallConfig)) execCall).map (fun s => (s.accepted, s.waits)) = some ([0], []) ∧
      (Runs.run step (newAsyncDB (some smallConfig)) (execCall ++ .waitForCompletion :: sweep ++ [.waitNext .listed 0])).map (fun s =>
        (s.waits, s.completed.length, s.places 0)) = some ([.done], 0, [.worker]) := by
  decide +kernel

end MmoServer.Db.Async.AsyncDB
