import MmoServer.Db.Async
import MmoServer.Lib.Slots

set_option autoImplicit false

namespace MmoServer.Db.Async

variable {R V : Type}

inductive Stage where
  | calling
  | batched
  | queued
  | held
  | ending
  | completed
deriving DecidableEq, Repr

def Worker.stock : Worker R V → List (Stage × AsyncOperation R V)
  | .holding op => [(.held, op)]
  | .retrying op => [(.held, op)]
  | .finishing op _ => [(.ending, op)]
  | _ => []

namespace AsyncDB

def handedOver (s : AsyncDB R V) : List (AsyncOperation R V) := (s.holder.map Holder.batch).getD []

def batched (s : AsyncDB R V) : Multiset (AsyncOperation R V) := s.batchQueues.contents + (s.handedOver : Multiset _)

def stock (s : AsyncDB R V) : Multiset (Stage × AsyncOperation R V) :=
  (s.calls : Multiset (AsyncOperation R V)).map (Prod.mk .calling) + s.batched.map (Prod.mk .batched) +
    (s.queue : Multiset (AsyncOperation R V)).map (Prod.mk .queued) +
    (s.workers.flatMap Worker.stock : Multiset (Stage × AsyncOperation R V)) +
    (s.completed.map Prod.fst : Multiset (AsyncOperation R V)).map (Prod.mk .completed)

structure Record (R V : Type) where
  executed : List Nat
  completed : List (AsyncOperation R V × AsyncResult V)
  callbacks : List Nat
  nextOperation : Nat
  config : AsyncConfig

def record (s : AsyncDB R V) : Record R V := ⟨s.executed, s.completed, s.callbacks, s.nextOperation, s.config⟩

def promised (s : AsyncDB R V) : List Nat :=
  s.accepted ++
    match s.holder with
    | some ⟨.caller ref, _, _⟩ => [ref]
    | _ => []

def CanSend (receiver : Option Nat) (s : AsyncDB R V) : Prop :=
  receiver.isSome = true ∨ s.closing.queueClosed = false ∧ s.queue.length < s.config.queueSize

def Room (s : AsyncDB R V) : Action R V → Prop
  | .send receiver => s.CanSend receiver
  | .retry _ receiver => s.CanSend receiver
  | _ => True

def offering (s : AsyncDB R V) : Action R V → Option (AsyncOperation R V)
  | .send _ => s.handedOver.head?
  | .retry w _ =>
    match s.workers[w]? with
    | some (.retrying op) => some op
    | _ => none
  | _ => none

instance decidableCanSend (receiver : Option Nat) (s : AsyncDB R V) : Decidable (s.CanSend receiver) :=
  inferInstanceAs (Decidable (_ ∨ _ ∧ _))

instance decidableRoom (s : AsyncDB R V) : ∀ action, Decidable (s.Room action)
  | .send receiver => decidableCanSend receiver s
  | .retry _ receiver => decidableCanSend receiver s
  | .call .. | .enter .. | .advance | .fire _ | .timer _ | .close | .closeNext _ | .waitForCompletion | .waitNext .. | .receive _
  | .stop _ | .process .. | .complete _ => isTrue trivial

inductive Passes : Stage → Stage → Prop where
  | batch : Passes .batched .queued
  | handOver : Passes .batched .held
  | receive : Passes .queued .held
  | retry : Passes .held .queued
  | direct : Passes .held .held

-- What a step records, with the operations it takes from their stages and those
-- it brings to theirs. Nothing else happens to an operation.
inductive Effect (before : AsyncDB R V) (action : Action R V) (after : AsyncDB R V) :
    List (Stage × AsyncOperation R V) → List (Stage × AsyncOperation R V) → Prop where
  | still (record : after.record = before.record) (promised : after.promised ⊆ before.promised) :
      Effect before action after [] []
  | called (op : AsyncOperation R V) (fresh : op.ref = before.record.nextOperation) (untried : op.retryCount = 0)
      (record : after.record = { before.record with nextOperation := before.record.nextOperation + 1 })
      (promised : after.promised ⊆ before.promised) (opened : before.closing.isClosed = false) :
      Effect before action after [] [(.calling, op)]
  | refused (op : AsyncOperation R V) (record : after.record = before.record) (promised : after.promised ⊆ before.promised) :
      Effect before action after [(.calling, op)] []
  | entered (op : AsyncOperation R V) (stage : Stage) (batchID : List UInt8)
      (inside : stage = .batched ∨ stage = .queued ∨ stage = .held) (record : after.record = before.record)
      (promised : after.promised ⊆ op.ref :: before.promised) :
      Effect before action after [(.calling, op)] [(stage, { op with batchID := batchID })]
  | passed (op : AsyncOperation R V) (source target : Stage) (way : Passes source target)
      (record : after.record = before.record) (promised : after.promised ⊆ before.promised) :
      Effect before action after [(source, op)] [(target, op)]
  | lost (op : AsyncOperation R V) (stage : Stage) (offered : before.offering action = some op) (noRoom : ¬ before.Room action)
      (record : after.record = before.record) (promised : after.promised ⊆ before.promised) :
      Effect before action after [(stage, op)] []
  | retried (op : AsyncOperation R V) (again : (op.retryCount : Int) < before.config.maxRetries)
      (record : after.record = { before.record with executed := before.record.executed ++ [op.ref] })
      (promised : after.promised ⊆ before.promised) :
      Effect before action after [(.held, op)] [(.held, { op with retryCount := op.retryCount + 1 })]
  | answered (op : AsyncOperation R V) (runs : List Nat) (own : runs ⊆ [op.ref]) (once : runs.length ≤ 1)
      (record : after.record = { before.record with executed := before.record.executed ++ runs })
      (promised : after.promised ⊆ before.promised) : Effect before action after [(.held, op)] [(.ending, op)]
  | finished (op : AsyncOperation R V) (result : AsyncResult V)
      (record : after.record = { before.record with
        completed := before.record.completed ++ [(op, result)]
        callbacks := if op.callback = true then before.record.callbacks ++ [op.ref] else before.record.callbacks })
      (promised : after.promised ⊆ before.promised) : Effect before action after [(.ending, op)] [(.completed, op)]

def Explained (before : AsyncDB R V) (action : Action R V) (after : AsyncDB R V) : Prop :=
  ∃ gone come, Slots.Exchange before.stock after.stock gone come ∧ Effect before action after gone come

theorem explained_still (before after : AsyncDB R V) (action : Action R V) (stock : after.stock = before.stock)
    (record : after.record = before.record) (promised : after.promised ⊆ before.promised) : Explained before action after :=
  ⟨[], [], Slots.Exchange.of_eq _ _ stock, .still record promised⟩

section Pieces

variable (s : AsyncDB R V)

theorem worker_exchange (w : Nat) (old new : Worker R V) (found : s.workers[w]? = some old) :
    Slots.Exchange s.stock ({ s with workers := s.workers.set w new } : AsyncDB R V).stock old.stock new.stock :=
  (Slots.exchange_held Worker.stock s.workers w old new found).framed _ _

variable (after : AsyncDB R V) (op : AsyncOperation R V)

theorem stock_calls (calls : List (AsyncOperation R V))
    (taken : (s.calls : Multiset (AsyncOperation R V)) = op ::ₘ (calls : Multiset _)) :
    s.stock = (.calling, op) ::ₘ ({ s with calls := calls } : AsyncDB R V).stock := by
  simp only [stock, taken, Multiset.map_cons, Multiset.cons_add, batched, handedOver]

theorem stock_queue (queue : List (AsyncOperation R V))
    (taken : (s.queue : Multiset (AsyncOperation R V)) = op ::ₘ (queue : Multiset _)) :
    s.stock = (.queued, op) ::ₘ ({ s with queue := queue } : AsyncDB R V).stock := by
  simp only [stock, taken, Multiset.map_cons, Multiset.cons_add, Multiset.add_cons, batched, handedOver]

section

variable (calls : after.calls = s.calls) (queue : after.queue = s.queue) (workers : after.workers = s.workers)
  (completed : after.completed = s.completed)

include calls queue workers completed

theorem stock_batched (same : after.batched = s.batched) : after.stock = s.stock := by
  rw [stock, stock, calls, queue, workers, completed, same]

theorem stock_batched_cons (more : after.batched = op ::ₘ s.batched) : after.stock = (.batched, op) ::ₘ s.stock := by
  simp only [stock, calls, queue, workers, completed, more, Multiset.map_cons, Multiset.add_cons, Multiset.cons_add]

end

structure Offered (receiver : Option Nat) (op : AsyncOperation R V) (result : Except String Unit) (after : AsyncDB R V) : Prop where
  record : after.record = s.record
  holder : after.holder = s.holder
  accepted : after.accepted = s.accepted
  busy : ∀ (w : Nat) (worker : Worker R V), s.workers[w]? = some worker → worker.isIdle = false → after.workers[w]? = some worker
  stock : (result = .ok () ∧ s.CanSend receiver ∧
      ∃ stage, (stage = .queued ∨ stage = .held) ∧ after.stock = (stage, op) ::ₘ s.stock) ∨
    ((∃ err, result = .error err) ∧ after.stock = s.stock ∧ ¬ s.CanSend receiver)

theorem enqueue_offered (receiver : Option Nat) (op : AsyncOperation R V) (result : Except String Unit) (after : AsyncDB R V)
    (ran : s.enqueueOperation receiver op = some (result, after)) : s.Offered receiver op result after := by
  cases receiver with
  | some v =>
    simp only [enqueueOperation] at ran
    split at ran
    · rename_i free
      cases ran
      simp only [Bool.and_eq_true, Option.any_eq_true] at free
      obtain ⟨⟨⟨worker, found, idle⟩, _⟩, _⟩ := free
      cases worker <;> simp [Worker.isIdle] at idle
      refine ⟨rfl, rfl, rfl, ?_, .inl ⟨rfl, .inl rfl, .held, .inr rfl, ?_⟩⟩
      · intro w worker busyAt busy
        have apart : v ≠ w := by
          rintro rfl
          rw [found, Option.some_inj] at busyAt
          subst busyAt
          cases busy
        change (s.workers.set v (.holding op))[w]? = some worker
        rw [List.getElem?_set_ne apart, busyAt]
      · exact (Slots.exchange_come _ _ _).mp (worker_exchange s v .idle (.holding op) found)
    · cases ran
  | none =>
    simp only [enqueueOperation] at ran
    split at ran
    · rename_i closed
      cases ran
      exact ⟨rfl, rfl, rfl, fun _ _ found _ => found, .inr ⟨⟨_, rfl⟩, rfl, by simp [CanSend, closed]⟩⟩
    · rename_i opened
      split at ran
      · rename_i room
        cases ran
        exact ⟨rfl, rfl, rfl, fun _ _ found _ => found, .inl ⟨rfl, .inr ⟨by simpa using opened, room⟩, .queued, .inl rfl,
          stock_queue { s with queue := s.queue ++ [op] } op s.queue (Slots.concat_eq _ _)⟩⟩
      · rename_i full
        cases ran
        exact ⟨rfl, rfl, rfl, fun _ _ found _ => found, .inr ⟨⟨_, rfl⟩, rfl, by simp [CanSend, full]⟩⟩

theorem process_batch_still (batchID : List UInt8) (owner : Owner) (pending : List (List UInt8)) (idle : s.handedOver = []) :
    let after := { (s.processBatch batchID).2 with holder := some ⟨owner, (s.processBatch batchID).1, pending⟩ }
    after.stock = s.stock ∧ after.record = s.record ∧ after.accepted = s.accepted := by
  have split := s.batchQueues.contents_erase batchID
  simp only [processBatch]
  split
  · exact ⟨stock_batched s _ rfl rfl rfl rfl (by rw [batched, batched, idle]; rfl), rfl, rfl⟩
  · exact ⟨stock_batched s _ rfl rfl rfl rfl (by rw [batched, batched, idle]; rfl), rfl, rfl⟩
  · rename_i batch _ found
    refine ⟨stock_batched s _ rfl rfl rfl rfl ?_, rfl, rfl⟩
    rw [batched, batched, idle, split, found, Option.getD_some, Multiset.coe_nil, add_zero, add_comm]
    rfl

end Pieces

end AsyncDB

end MmoServer.Db.Async
