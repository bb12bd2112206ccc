import MmoServer.Db.AsyncAccounts

set_option autoImplicit false

namespace MmoServer.Db.Async

variable {R V : Type}

namespace AsyncDB

inductive Turn (before after : AsyncDB R V) : Prop where
  | kept (holder : after.holder = before.holder) (queues : after.batchQueues = before.batchQueues)
      (closing : after.closing = before.closing)
  | locked (free : before.holder = none) (owner : ∀ holder ∈ after.holder, holder.owner ≠ .close)
      (closing : after.closing = before.closing)
  | sent (owner : Owner) (op : AsyncOperation R V) (batch : List (AsyncOperation R V)) (pending : List (List UInt8))
      (was : before.holder = some ⟨owner, op :: batch, pending⟩) (now : after.holder = some ⟨owner, batch, pending⟩)
      (queues : after.batchQueues = before.batchQueues) (closing : after.closing = before.closing)
  | next (owner : Owner) (batchID : List UInt8) (batch : List (AsyncOperation R V)) (pending : List (List UInt8))
      (was : before.holder = some ⟨owner, [], batchID :: pending⟩) (now : after.holder = some ⟨owner, batch, pending⟩)
      (queues : ∀ id ops, after.batchQueues.lookup id = some ops → ops ≠ [] → before.batchQueues.lookup id = some ops ∧ id ≠ batchID)
      (closing : after.closing = before.closing)
  | released (owner : Owner) (was : before.holder = some ⟨owner, [], []⟩) (now : after.holder = none)
      (queues : after.batchQueues = before.batchQueues)
      (closing : after.closing = if owner = .close then .swept else before.closing)
  | sweeps (pending : List (List UInt8)) (free : before.holder = none) (now : after.holder = some ⟨.close, [], pending⟩)
      (covered : ∀ id ops, before.batchQueues.lookup id = some ops → id ∈ pending) (queues : after.batchQueues = before.batchQueues)
      (marked : before.closing = .marked) (closing : after.closing = .sweeping)
  | closes (holder : after.holder = before.holder) (queues : after.batchQueues = before.batchQueues)
      (workers : after.workers = before.workers) (goes : before.closing.Goes before.workers after.closing)

section Enqueue

variable (s after : AsyncDB R V) (receiver : Option Nat) (op : AsyncOperation R V) (result : Except String Unit)

theorem enqueue_kept (ran : s.enqueueOperation receiver op = some (result, after)) :
    after.holder = s.holder ∧ after.batchQueues = s.batchQueues ∧ after.closing = s.closing := by
  simp only [enqueueOperation] at ran
  split at ran
  · split at ran <;> cases ran
    exact ⟨rfl, rfl, rfl⟩
  · split at ran
    · cases ran
      exact ⟨rfl, rfl, rfl⟩
    · split at ran <;> cases ran <;> exact ⟨rfl, rfl, rfl⟩

theorem process_batch_kept (batchID : List UInt8) :
    (s.processBatch batchID).2.closing = s.closing ∧
      ∀ id ops, (s.processBatch batchID).2.batchQueues.lookup id = some ops → ops ≠ [] →
        s.batchQueues.lookup id = some ops ∧ id ≠ batchID := by
  simp only [processBatch]
  split
  · rename_i absent
    refine ⟨rfl, fun id ops found _ => ⟨found, ?_⟩⟩
    rintro rfl
    rw [absent] at found
    cases found
  · rename_i empty
    refine ⟨rfl, fun id ops found some => ⟨found, ?_⟩⟩
    rintro rfl
    rw [empty, Option.some_inj] at found
    exact some found.symm
  · refine ⟨rfl, fun id ops found _ => ?_⟩
    rw [AList.lookup_erase_eq] at found
    split at found
    · cases found
    · rename_i apart
      exact ⟨found, apart⟩

theorem process_pending_kept (order : Shuffle (List UInt8)) (owner : Owner) (ran : s.processPendingBatches order owner = some after) :
    s.holder = none ∧ after.batchQueues = s.batchQueues ∧ after.closing = s.closing ∧
      ∃ pending, after.holder = some ⟨owner, [], pending⟩ ∧ ∀ id ops, s.batchQueues.lookup id = some ops → id ∈ pending := by
  obtain ⟨free, rfl⟩ := process_pending_eq s after order owner ran
  refine ⟨free, rfl, rfl, _, rfl, fun id ops found => ?_⟩
  rw [Shuffle.mem_apply]
  exact AList.mem_keys.mp (AList.lookup_isSome.mp (by rw [found]; rfl))

end Enqueue

theorem batched_turn (s : AsyncDB R V) (calls : List (AsyncOperation R V)) (batchID : List UInt8) (op : AsyncOperation R V)
    (free : s.holder = none) : Turn s (({ s with calls := calls } : AsyncDB R V).addToBatch batchID op) := by
  refine .locked free ?_ ?_
  · intro holder held
    simp only [addToBatch] at held
    split at held
    · cases held
      simp
    · split at held <;> simp only [free, Option.mem_def] at held <;> cases held
  · simp only [addToBatch]
    split
    · exact (process_batch_kept _ _).1
    · split <;> rfl

theorem step_turn (before after : AsyncDB R V) (action : Action R V) (taken : before.step action = some after) :
    Turn before after := by
  cases step_branch before after action taken with
  | batched ref receiver op found free => exact batched_turn before _ _ op free
  | accepted ref receiver op sent found offered | rejected ref receiver op err sent found offered
  | retried w receiver op result sent found offered =>
    obtain ⟨holder, queues, closing⟩ := enqueue_kept _ _ _ _ _ offered
    exact .kept holder queues closing
  | sent receiver owner op batch pending result _ held offered =>
    obtain ⟨holder, queues, closing⟩ := enqueue_kept _ _ _ _ _ offered
    exact .sent owner op batch pending held holder queues closing
  | next owner batchID pending held =>
    obtain ⟨closing, queues⟩ := process_batch_kept before batchID
    exact .next owner batchID _ pending held rfl queues closing
  | released owner held => exact .released owner held rfl rfl rfl
  | timed ref timer free found started begins =>
    subst begins
    refine .locked free ?_ (process_batch_kept _ _).1
    rintro holder ⟨⟩
    simp
  | closes _ closing goes => exact .closes rfl rfl rfl goes
  | sweeps order swept marked pending =>
    obtain ⟨free, queues, _, ids, now, covered⟩ := process_pending_kept before swept order .close pending
    exact .sweeps ids free now covered queues marked rfl
  | waits order index swept waits pending =>
    obtain ⟨free, _, closing, ids, now, _⟩ := process_pending_kept before swept order (.wait index) pending
    refine .locked free ?_ closing
    intro holder held
    rw [Option.mem_def, now] at held
    cases held
    simp
  | _ => exact .kept rfl rfl rfl

end AsyncDB

end MmoServer.Db.Async
