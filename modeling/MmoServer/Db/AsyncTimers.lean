import MmoServer.Db.AsyncTurns

set_option autoImplicit false

namespace MmoServer.Db.Async.AsyncDB

variable {R V : Type}

structure Timed (s : AsyncDB R V) : Prop where
  made : ∀ timer ∈ s.timers ++ s.fired, timer.ref < s.nextTimer
  distinct : ((s.timers ++ s.fired).map Timer.ref).Nodup
  running : ∀ batchID ref, s.batchTimers.lookup batchID = some ref → ⟨ref, batchID⟩ ∈ s.timers ++ s.fired
  covered : ∀ batchID batch, s.batchQueues.lookup batchID = some batch → batch ≠ [] →
    (∃ ref, s.batchTimers.lookup batchID = some ref) ∨ ∃ holder ∈ s.holder, batchID ∈ holder.pending

structure SameTimers (s after : AsyncDB R V) : Prop where
  timers : after.timers = s.timers
  fired : after.fired = s.fired
  batchTimers : after.batchTimers = s.batchTimers
  nextTimer : after.nextTimer = s.nextTimer

section Frames

variable (s after : AsyncDB R V)

theorem Timed.frame (timed : s.Timed) (same : SameTimers s after)
    (covered : ∀ batchID batch, after.batchQueues.lookup batchID = some batch → batch ≠ [] →
      (∃ ref, s.batchTimers.lookup batchID = some ref) ∨ ∃ holder ∈ after.holder, batchID ∈ holder.pending) : after.Timed := by
  obtain ⟨timers, fired, batchTimers, nextTimer⟩ := same
  refine ⟨?_, ?_, ?_, ?_⟩
  · rw [timers, fired, nextTimer]
    exact timed.made
  · rw [timers, fired]
    exact timed.distinct
  · rw [batchTimers, timers, fired]
    exact timed.running
  · rw [batchTimers]
    exact covered

theorem enqueue_timers (receiver : Option Nat) (op : AsyncOperation R V) (result : Except String Unit)
    (ran : s.enqueueOperation receiver op = some (result, after)) : SameTimers s after := by
  simp only [enqueueOperation] at ran
  split at ran
  · split at ran <;> cases ran
    exact ⟨rfl, rfl, rfl, rfl⟩
  · split at ran
    · cases ran
      exact ⟨rfl, rfl, rfl, rfl⟩
    · split at ran <;> cases ran <;> exact ⟨rfl, rfl, rfl, rfl⟩

theorem process_batch_timers (batchID : List UInt8) : SameTimers s (s.processBatch batchID).2 := by
  simp only [processBatch]
  split <;> exact ⟨rfl, rfl, rfl, rfl⟩

theorem Timed.same_ref (timed : s.Timed) (first second : Timer) (one : first ∈ s.timers ++ s.fired)
    (two : second ∈ s.timers ++ s.fired) (same : first.ref = second.ref) : first = second :=
  List.inj_on_of_nodup_map timed.distinct one two same

end Frames

section Steps

variable (s : AsyncDB R V) (timed : s.Timed)

include timed

theorem timed_enqueue (sent : AsyncDB R V) (receiver : Option Nat) (op : AsyncOperation R V) (result : Except String Unit)
    (offered : s.enqueueOperation receiver op = some (result, sent)) : sent.Timed := by
  obtain ⟨holder, queues, _⟩ := enqueue_kept _ _ _ _ _ offered
  refine timed.frame s sent (enqueue_timers s sent receiver op result offered) ?_
  rw [holder, queues]
  exact timed.covered

theorem timed_next (owner : Owner) (batchID : List UInt8) (pending : List (List UInt8))
    (held : s.holder = some ⟨owner, [], batchID :: pending⟩) :
    Timed { (s.processBatch batchID).2 with holder := some ⟨owner, (s.processBatch batchID).1, pending⟩ } := by
  obtain ⟨timers, fired, batchTimers, nextTimer⟩ := process_batch_timers s batchID
  refine timed.frame s _ ⟨timers, fired, batchTimers, nextTimer⟩ fun id ops found some => ?_
  obtain ⟨before, other⟩ := (process_batch_kept s batchID).2 id ops found some
  rcases timed.covered id ops before some with entry | ⟨holder, same, waiting⟩
  · exact .inl entry
  · rw [Option.mem_def, held] at same
    cases same
    exact .inr ⟨_, rfl, (List.mem_cons.mp waiting).resolve_left other⟩

theorem timed_released (after : AsyncDB R V) (same : SameTimers s after) (queues : after.batchQueues = s.batchQueues)
    (idle : ∀ holder ∈ s.holder, holder.pending = []) : after.Timed := by
  refine timed.frame s after same fun id ops found some => ?_
  rw [queues] at found
  rcases timed.covered id ops found some with entry | ⟨holder, same, waiting⟩
  · exact .inl entry
  · rw [idle holder same] at waiting
    cases waiting

theorem timed_fires (ref : Nat) (timer : Timer) (found : (s.timers.find? fun timer => timer.ref == ref) = some timer) :
    Timed { s with timers := s.timers.filter (fun timer => timer.ref != ref), fired := s.fired ++ [timer] } := by
  have armed : (s.timers.map Timer.ref).Nodup :=
    timed.distinct.sublist ((List.sublist_append_left s.timers s.fired).map Timer.ref)
  have moved : (s.timers.filter (fun timer => timer.ref != ref) ++ (s.fired ++ [timer])).Perm (s.timers ++ s.fired) := by
    have taken := Slots.find_filter Timer.ref s.timers ref timer armed found
    rw [← List.append_assoc]
    exact (List.perm_append_singleton _ _).trans (taken.symm.append_right s.fired)
  exact ⟨fun other member => timed.made other (moved.mem_iff.mp member), (moved.map Timer.ref).nodup_iff.mpr timed.distinct,
    fun batchID number entry => moved.mem_iff.mpr (timed.running batchID number entry), timed.covered⟩

theorem timed_timer (ref : Nat) (timer : Timer) (free : s.holder = none)
    (found : (s.fired.find? fun timer => timer.ref == ref) = some timer) (started : AsyncDB R V)
    (begins : started = { s with
      fired := s.fired.filter (fun timer => timer.ref != ref)
      batchTimers := s.batchTimers.erase timer.batchID }) :
    Timed { (started.processBatch timer.batchID).2 with
      holder := some ⟨.timer, (started.processBatch timer.batchID).1, []⟩ } := by
  have own : timer.ref = ref := by simpa using List.find?_some found
  have waiting : timer ∈ s.timers ++ s.fired := List.mem_append_right _ (List.mem_of_find?_eq_some found)
  have fewer : (s.timers ++ s.fired.filter (fun timer => timer.ref != ref)).Sublist (s.timers ++ s.fired) :=
    List.filter_sublist.append_left _
  obtain ⟨timers, fired, batchTimers, nextTimer⟩ := process_batch_timers started timer.batchID
  have kept := (process_batch_kept started timer.batchID).2
  subst begins
  refine ⟨?_, ?_, ?_, ?_⟩
  · rw [timers, fired, nextTimer]
    exact fun other member => timed.made other (fewer.subset member)
  · rw [timers, fired]
    exact timed.distinct.sublist (fewer.map _)
  · rw [timers, fired, batchTimers]
    intro batchID number entry
    rw [AList.lookup_erase_eq] at entry
    split at entry
    · cases entry
    · rename_i other
      have before := timed.running batchID number entry
      have different : number ≠ ref := by
        rintro rfl
        have equal := timed.same_ref s ⟨number, batchID⟩ timer before waiting own.symm
        exact other (congrArg Timer.batchID equal)
      simp only [List.mem_append, List.mem_filter, bne_iff_ne] at before ⊢
      exact before.imp_right fun late => ⟨late, different⟩
  · rw [batchTimers]
    intro id ops present some
    obtain ⟨before, other⟩ := kept id ops present some
    rcases timed.covered id ops before some with ⟨number, entry⟩ | ⟨holder, held, _⟩
    · exact .inl ⟨number, by rw [AList.lookup_erase_eq, if_neg other, entry]⟩
    · rw [free] at held
      cases held

theorem timed_sweep (swept : AsyncDB R V) (order : Shuffle (List UInt8)) (owner : Owner)
    (pending : s.processPendingBatches order owner = some swept) : swept.Timed := by
  obtain ⟨_, queues, _, ids, held, covered⟩ := process_pending_kept s swept order owner pending
  obtain ⟨_, rfl⟩ := process_pending_eq s swept order owner pending
  have fewer : (s.timers.filter (fun timer => timer.ref ∉ s.batchTimers.values) ++ s.fired).Sublist (s.timers ++ s.fired) :=
    List.filter_sublist.append_right _
  refine ⟨fun other member => timed.made other (fewer.subset member), timed.distinct.sublist (fewer.map _), ?_, ?_⟩
  · intro batchID ref entry
    simp at entry
  · intro id ops found _
    exact .inr ⟨⟨owner, [], ids⟩, held, covered id ops (queues ▸ found)⟩

theorem timed_batched (calls : List (AsyncOperation R V)) (batchID : List UInt8) (op : AsyncOperation R V) (free : s.holder = none) :
    (({ s with calls := calls } : AsyncDB R V).addToBatch batchID op).Timed := by
  have entered : ∀ batch id ops, (s.batchQueues.insert batchID batch).lookup id = some ops → ops ≠ [] → id ≠ batchID →
      ∃ ref, s.batchTimers.lookup id = some ref := by
    intro batch id ops found some other
    rw [AList.lookup_insert_eq, if_neg other] at found
    rcases timed.covered id ops found some with entry | ⟨holder, held, _⟩
    · exact entry
    · rw [free] at held
      cases held
  simp only [addToBatch]
  split
  · obtain ⟨timers, fired, batchTimers, nextTimer⟩ := process_batch_timers ({ s with
      calls := calls
      batchQueues := s.batchQueues.insert batchID ((s.batchQueues.lookup batchID).getD [] ++ [{ op with batchID := batchID }]) }) batchID
    refine timed.frame s _ ⟨timers, fired, batchTimers, nextTimer⟩ fun id ops found some => ?_
    obtain ⟨before, other⟩ := (process_batch_kept _ batchID).2 id ops found some
    exact .inl (entered _ id ops before some other)
  · split
    · rename_i ref entry
      refine timed.frame s _ ⟨rfl, rfl, rfl, rfl⟩ fun id ops found some => .inl ?_
      by_cases same : id = batchID
      · exact ⟨ref, same ▸ entry⟩
      · exact entered _ id ops found some same
    · have unused : s.nextTimer ∉ (s.timers ++ s.fired).map Timer.ref := by
        intro used
        obtain ⟨timer, member, same⟩ := List.mem_map.mp used
        exact Nat.ne_of_lt (timed.made timer member) same
      have more : (s.timers ++ [(⟨s.nextTimer, batchID⟩ : Timer)] ++ s.fired).Perm (⟨s.nextTimer, batchID⟩ :: (s.timers ++ s.fired)) := by
        rw [List.append_assoc]
        exact List.perm_middle
      refine ⟨?_, (more.map Timer.ref).nodup_iff.mpr (List.nodup_cons.mpr ⟨unused, timed.distinct⟩), ?_, ?_⟩
      · intro timer member
        rcases List.mem_cons.mp (more.mem_iff.mp member) with rfl | old
        · exact Nat.lt_succ_self _
        · exact Nat.lt_succ_of_lt (timed.made timer old)
      · intro id ref entry
        rw [AList.lookup_insert_eq] at entry
        split at entry
        · rename_i same
          cases entry
          rw [same]
          exact more.mem_iff.mpr List.mem_cons_self
        · exact more.mem_iff.mpr (List.mem_cons_of_mem _ (timed.running id ref entry))
      · intro id ops found some
        by_cases same : id = batchID
        · exact .inl ⟨s.nextTimer, by rw [AList.lookup_insert_eq, if_pos same]⟩
        · obtain ⟨ref, entry⟩ := entered _ id ops found some same
          exact .inl ⟨ref, by rw [AList.lookup_insert_eq, if_neg same, entry]⟩

end Steps

theorem step_timed (before after : AsyncDB R V) (action : Action R V) (timed : before.Timed)
    (taken : before.step action = some after) : after.Timed := by
  cases step_branch before after action taken with
  | batched ref receiver op found free => exact timed_batched before timed _ _ op free
  | accepted ref receiver op sent found offered =>
    have entering : Timed { before with calls := before.calls.eraseP fun op => op.ref == ref } :=
      ⟨timed.made, timed.distinct, timed.running, timed.covered⟩
    have kept := timed_enqueue _ entering sent receiver op _ offered
    exact ⟨kept.made, kept.distinct, kept.running, kept.covered⟩
  | rejected ref receiver op err sent found offered =>
    have entering : Timed { before with calls := before.calls.eraseP fun op => op.ref == ref } :=
      ⟨timed.made, timed.distinct, timed.running, timed.covered⟩
    exact timed_enqueue _ entering after receiver op _ offered
  | sent receiver owner op batch pending result _ held offered =>
    have sending : Timed { before with holder := some ⟨owner, batch, pending⟩ } := by
      refine ⟨timed.made, timed.distinct, timed.running, fun id ops found some => ?_⟩
      rcases timed.covered id ops found some with entry | ⟨holder, same, waiting⟩
      · exact .inl entry
      · rw [Option.mem_def, held] at same
        cases same
        exact .inr ⟨_, rfl, waiting⟩
    exact timed_enqueue _ sending after receiver op result offered
  | next owner batchID pending held => exact timed_next before timed owner batchID pending held
  | released owner held =>
    refine timed_released before timed _ ⟨rfl, rfl, rfl, rfl⟩ rfl fun holder same => ?_
    rw [Option.mem_def, held] at same
    cases same
    rfl
  | fires ref timer found => exact timed_fires before timed ref timer found
  | timed ref timer free found started begins => exact timed_timer before timed ref timer free found started begins
  | sweeps order swept marked pending =>
    have kept := timed_sweep before timed swept order .close pending
    exact ⟨kept.made, kept.distinct, kept.running, kept.covered⟩
  | waits order index swept waits pending =>
    have kept := timed_sweep before timed swept order (.wait index) pending
    exact ⟨kept.made, kept.distinct, kept.running, kept.covered⟩
  | retried w receiver op result sent found offered =>
    have kept := timed_enqueue before timed sent receiver op result offered
    exact ⟨kept.made, kept.distinct, kept.running, kept.covered⟩
  | _ => exact ⟨timed.made, timed.distinct, timed.running, timed.covered⟩

theorem reached_timed (allowed : AsyncDB R V → Action R V → Prop) (config : Option AsyncConfig) (s : AsyncDB R V)
    (reached : Runs.Reached step allowed (newAsyncDB config) s) : s.Timed := by
  refine Runs.reached_invariant step allowed Timed _ s ?_ (fun before action after timed _ taken =>
    step_timed before after action timed taken) reached
  exact ⟨by simp [newAsyncDB], by simp [newAsyncDB], by simp [newAsyncDB], by simp [newAsyncDB]⟩

section Flush

variable (s : AsyncDB R V) (timed : s.Timed)

include timed

theorem find_armed (timer : Timer) (armed : timer ∈ s.timers) :
    (s.timers.find? fun other => other.ref == timer.ref) = some timer :=
  Slots.find_key Timer.ref s.timers timer
    (timed.distinct.sublist ((List.sublist_append_left s.timers s.fired).map Timer.ref)) armed

theorem find_fired (timer : Timer) (fired : timer ∈ s.fired) :
    (s.fired.find? fun other => other.ref == timer.ref) = some timer :=
  Slots.find_key Timer.ref s.fired timer
    (timed.distinct.sublist ((List.sublist_append_right s.timers s.fired).map Timer.ref)) fired

variable (live : s.panicked = false) (free : s.holder = none) (ref : Nat) (batchID : List UInt8)
  (batch : List (AsyncOperation R V)) (queued : s.batchQueues.lookup batchID = some batch) (waiting : batch ≠ [])

include live free queued waiting

theorem fired_flushes (fired : ⟨ref, batchID⟩ ∈ s.fired) :
    ∃ after, s.step (.timer ref) = some after ∧ after.handedOver = batch ∧ after.batchQueues.lookup batchID = none ∧
      after.closing = s.closing ∧ after.panicked = false := by
  have found := find_fired s timed ⟨ref, batchID⟩ fired
  simp only [step, live, Bool.false_eq_true, if_false, processBatchByTimer, free, found, processBatch, queued]
  cases batch with
  | nil => exact absurd rfl waiting
  | cons op rest => exact ⟨_, rfl, rfl, AList.lookup_erase _ _, rfl, rfl⟩

theorem running_flushes (running : ⟨ref, batchID⟩ ∈ s.timers ++ s.fired) :
    ∃ actions after, (actions = [.timer ref] ∨ actions = [.fire ref, .timer ref]) ∧ Runs.run step s actions = some after ∧
      after.handedOver = batch ∧ after.batchQueues.lookup batchID = none ∧ after.closing = s.closing ∧ after.panicked = false := by
  rcases List.mem_append.mp running with armed | fired
  · have found := find_armed s timed ⟨ref, batchID⟩ armed
    have fires : s.step (.fire ref) = some { s with
        timers := s.timers.filter (fun timer => timer.ref != ref)
        fired := s.fired ++ [⟨ref, batchID⟩] } := by
      simp only [step, live, Bool.false_eq_true, if_false, fire, found]
    obtain ⟨after, taken, rest⟩ := fired_flushes _ (step_timed s _ _ timed fires) live free ref batchID batch queued waiting (by simp)
    exact ⟨_, after, .inr rfl, by simp only [Runs.run, fires, Option.bind_some, taken], rest⟩
  · obtain ⟨after, taken, rest⟩ := fired_flushes s timed live free ref batchID batch queued waiting fired
    exact ⟨_, after, .inl rfl, by simp only [Runs.run, Option.bind_some, taken], rest⟩

end Flush

-- The entry of a batch that waits names a timer that is armed or whose callback
-- waits for batchMu, and nothing but that is needed to flush the batch.
theorem no_batch_stranded (config : Option AsyncConfig) (s : AsyncDB R V)
    (reached : Runs.Reached step (fun _ _ => True) (newAsyncDB config) s) (free : s.holder = none) :
    ∀ batchID batch, s.batchQueues.lookup batchID = some batch → batch ≠ [] →
      ∃ ref, s.batchTimers.lookup batchID = some ref ∧ (⟨ref, batchID⟩ ∈ s.timers ∨ ⟨ref, batchID⟩ ∈ s.fired) ∧
        (s.panicked = false → ∃ actions after, (actions = [.timer ref] ∨ actions = [.fire ref, .timer ref]) ∧
          Runs.run step s actions = some after ∧ after.handedOver = batch ∧ after.batchQueues.lookup batchID = none) := by
  intro batchID batch queued waiting
  have timed := reached_timed _ config s reached
  rcases timed.covered batchID batch queued waiting with ⟨ref, entry⟩ | ⟨holder, held, _⟩
  · have running := timed.running batchID ref entry
    refine ⟨ref, entry, List.mem_append.mp running, fun live => ?_⟩
    obtain ⟨actions, after, way, ran, taken, gone, _⟩ := running_flushes s timed live free ref batchID batch queued waiting running
    exact ⟨actions, after, way, ran, taken, gone⟩
  · rw [free] at held
    cases held

def staleCallback : List (Action Unit Unit) :=
  [insertCall, .enter 0 none, .fire 0, .waitForCompletion, .waitNext .listed 0, .advance, .send (some 0), .advance,
    insertCall, .enter 1 none]

theorem new_batch_timed_beside_stale_callback :
    ∃ s, Runs.run step (newAsyncDB (some smallConfig)) staleCallback = some s ∧ s.fired = [⟨0, insertText⟩] ∧
      s.timers = [⟨1, insertText⟩] ∧ ∃ ref, s.batchTimers.lookup insertText = some ref ∧
        (⟨ref, insertText⟩ ∈ s.timers ∨ ⟨ref, insertText⟩ ∈ s.fired) := by
  have observed : (Runs.run step (newAsyncDB (some smallConfig)) staleCallback).map (fun s =>
      (s.fired, s.timers, s.holder.isNone, (s.batchQueues.lookup insertText).map List.length)) =
      some ([⟨0, insertText⟩], [⟨1, insertText⟩], true, some 1) := by
    decide +kernel
  obtain ⟨s, ran, seen⟩ := Option.map_eq_some_iff.mp observed
  simp only [Prod.mk.injEq] at seen
  obtain ⟨fired, timers, free, queued⟩ := seen
  obtain ⟨batch, found, one⟩ := Option.map_eq_some_iff.mp queued
  have reached := Runs.reached_of_run step (fun _ _ => True) _ _ s staleCallback .start (by decide +kernel) ran
  have waiting : batch ≠ [] := by
    rintro rfl
    cases one
  obtain ⟨ref, entry, running, _⟩ :=
    no_batch_stranded (some smallConfig) s reached (Option.isNone_iff_eq_none.mp free) insertText batch found waiting
  exact ⟨s, ran, fired, timers, ref, entry, running⟩

end MmoServer.Db.Async.AsyncDB
