import MmoServer.Db.AsyncEffects
import MmoServer.Db.AsyncBranches

set_option autoImplicit false

namespace MmoServer.Db.Async.AsyncDB

variable {R V : Type}

section Calls

variable (s : AsyncDB R V)

theorem called_explained (type : OperationType) (sql : List UInt8) (args : List V)
    (resultHandler : Option (R → Option V × Option String)) (callback : Bool) (opened : s.closing.isClosed = false) :
    Explained s (.call type sql args resultHandler callback) { s with
      calls := s.calls ++ [{ ref := s.nextOperation, type, sql, args, resultHandler, callback }]
      nextOperation := s.nextOperation + 1 } := by
  have come := stock_calls { s with calls := s.calls ++ [_], nextOperation := s.nextOperation + 1 } _ s.calls
    (Slots.concat_eq s.calls { ref := s.nextOperation, type, sql, args, resultHandler, callback })
  exact ⟨[], _, (Slots.exchange_come _ _ _).mpr come, .called _ rfl rfl rfl (List.Subset.refl _) opened⟩

variable (ref : Nat) (receiver : Option Nat) (op : AsyncOperation R V) (calls : List (AsyncOperation R V))

theorem add_to_batch_explained (batchID : List UInt8) (free : s.holder = none) (calls : List (AsyncOperation R V))
    (taken : (s.calls : Multiset (AsyncOperation R V)) = op ::ₘ (calls : Multiset _)) :
    Explained s (.enter ref receiver) (({ s with calls := calls } : AsyncDB R V).addToBatch batchID op) := by
  have idle : s.handedOver = [] := by rw [handedOver, free]; rfl
  have waiting : s.promised = s.accepted := by rw [promised, free, List.append_nil]
  have gone := stock_calls s op calls taken
  have come := stock_batched_cons { s with calls := calls }
    { s with
      calls := calls
      batchQueues := s.batchQueues.insert batchID ((s.batchQueues.lookup batchID).getD [] ++ [{ op with batchID := batchID }]) }
    { op with batchID := batchID } rfl rfl rfl rfl (by
      simp only [batched, AList.contents_append, Multiset.cons_add]
      rfl)
  simp only [addToBatch]
  split
  · -- The batch is full: the call keeps batchMu and hands the batch over.
    obtain ⟨stock, record, accepted⟩ := process_batch_still
      { s with
        calls := calls
        batchQueues := s.batchQueues.insert batchID ((s.batchQueues.lookup batchID).getD [] ++ [{ op with batchID := batchID }]) }
      batchID (.caller op.ref) [] idle
    refine ⟨_, _, Slots.Exchange.replaced _ _ _ _ _ gone (stock.trans come), .entered op .batched batchID (.inl rfl) record ?_⟩
    rw [waiting, promised]
    intro other member
    rw [accepted] at member
    simpa [or_comm] using member
  · have exchange := Slots.Exchange.replaced _ _ _ _ _ gone come
    split
    · refine ⟨_, _, exchange, .entered op .batched batchID (.inl rfl) rfl ?_⟩
      simp [promised, free]
    · refine ⟨_, _, exchange, .entered op .batched batchID (.inl rfl) rfl ?_⟩
      simp [promised, free]

theorem accepted_explained (sent : AsyncDB R V) (own : op.ref = ref)
    (taken : (s.calls : Multiset (AsyncOperation R V)) = op ::ₘ (calls : Multiset _))
    (offered : ({ s with calls := calls } : AsyncDB R V).enqueueOperation receiver op = some (.ok (), sent)) :
    Explained s (.enter ref receiver) { sent with accepted := sent.accepted ++ [ref] } := by
  have gone := stock_calls s op calls taken
  have kept := enqueue_offered _ _ _ _ _ offered
  obtain ⟨_, _, stage, inside, come⟩ | ⟨⟨_, failed⟩, _⟩ := kept.stock
  · refine ⟨_, _, Slots.Exchange.replaced _ _ _ _ _ gone come, .entered op stage op.batchID (.inr inside) kept.record ?_⟩
    simp only [promised, kept.holder, kept.accepted, own]
    intro other member
    simp only [List.mem_append, List.mem_cons] at member ⊢
    tauto
  · cases failed

theorem rejected_explained (err : String) (sent : AsyncDB R V)
    (taken : (s.calls : Multiset (AsyncOperation R V)) = op ::ₘ (calls : Multiset _))
    (offered : ({ s with calls := calls } : AsyncDB R V).enqueueOperation receiver op = some (.error err, sent)) :
    Explained s (.enter ref receiver) sent := by
  have gone := stock_calls s op calls taken
  have kept := enqueue_offered _ _ _ _ _ offered
  obtain ⟨succeeded, _⟩ | ⟨_, stock, _⟩ := kept.stock
  · cases succeeded
  · refine ⟨_, [], (Slots.exchange_gone _ _ _).mpr (gone.trans (by rw [stock])), .refused op kept.record ?_⟩
    rw [promised, kept.holder, kept.accepted]
    exact List.Subset.refl _

end Calls

section Batches

variable (s after : AsyncDB R V)

variable (action : Action R V) (owner : Owner)

theorem handed_over_stock (op : AsyncOperation R V) (batch : List (AsyncOperation R V)) (pending : List (List UInt8))
    (held : s.holder = some ⟨owner, op :: batch, pending⟩) :
    s.stock = (.batched, op) ::ₘ ({ s with holder := some ⟨owner, batch, pending⟩ } : AsyncDB R V).stock := by
  refine stock_batched_cons _ s op rfl rfl rfl rfl ?_
  simp only [batched, handedOver, held, Option.map_some, Option.getD_some, ← Multiset.cons_coe, Multiset.add_cons]

theorem sent_explained (receiver : Option Nat) (owner : Owner) (op : AsyncOperation R V) (batch : List (AsyncOperation R V))
    (pending : List (List UInt8)) (result : Except String Unit) (held : s.holder = some ⟨owner, op :: batch, pending⟩)
    (offered : ({ s with holder := some ⟨owner, batch, pending⟩ } : AsyncDB R V).enqueueOperation receiver op =
      some (result, after)) : Explained s (.send receiver) after := by
  have kept := enqueue_offered _ _ _ _ _ offered
  have promised' : after.promised ⊆ s.promised := by
    rw [promised, promised, kept.holder, kept.accepted, held]
    cases owner <;> exact List.Subset.refl _
  have gone := handed_over_stock s owner op batch pending held
  obtain ⟨_, _, stage, inside, come⟩ | ⟨_, stock, noRoom⟩ := kept.stock
  · have way : Passes .batched stage := by
      rcases inside with rfl | rfl
      · exact .batch
      · exact .handOver
    exact ⟨_, _, Slots.Exchange.replaced _ _ _ _ _ gone come, .passed op _ _ way kept.record promised'⟩
  · have offers : s.offering (.send receiver) = some op := by simp [offering, handedOver, held]
    exact ⟨_, [], (Slots.exchange_gone _ _ _).mpr (gone.trans (by rw [stock])),
      .lost op .batched offers noRoom kept.record promised'⟩

theorem next_explained (batchID : List UInt8) (pending : List (List UInt8)) (held : s.holder = some ⟨owner, [], batchID :: pending⟩) :
    Explained s action { (s.processBatch batchID).2 with holder := some ⟨owner, (s.processBatch batchID).1, pending⟩ } := by
  obtain ⟨stock, record, accepted⟩ := process_batch_still s batchID owner pending (by rw [handedOver, held]; rfl)
  refine explained_still s _ _ stock record ?_
  rw [promised, promised, accepted, held]
  cases owner <;> exact List.Subset.refl _

theorem released_explained (held : s.holder = some ⟨owner, [], []⟩) (accepted : List Nat) (closing : Closing) (waits : List Waiting)
    (returns : accepted = s.accepted ++ match owner with | .caller ref => [ref] | _ => []) :
    Explained s action { s with holder := none, accepted := accepted, closing := closing, waits := waits } := by
  refine explained_still s _ _ (stock_batched s _ rfl rfl rfl rfl ?_) rfl ?_
  · rw [batched, batched, handedOver, handedOver, held]
    rfl
  · rw [promised, promised, held, returns]
    cases owner <;> simp

theorem timed_explained (batchID : List UInt8) (fired : List Timer) (batchTimers : GoMap (List UInt8) Nat) (free : s.holder = none) :
    Explained s action { (({ s with fired := fired, batchTimers := batchTimers } : AsyncDB R V).processBatch batchID).2 with
      holder := some ⟨.timer, (({ s with fired := fired, batchTimers := batchTimers } : AsyncDB R V).processBatch batchID).1, []⟩ } := by
  have idle : s.handedOver = [] := by rw [handedOver, free]; rfl
  obtain ⟨stock, record, accepted⟩ := process_batch_still
    { s with fired := fired, batchTimers := batchTimers } batchID .timer [] idle
  refine explained_still s _ _ stock record ?_
  rw [promised, promised, accepted]
  simp [free]

theorem process_pending_still (order : Shuffle (List UInt8)) (owner : Owner) (apart : ∀ ref, owner ≠ .caller ref)
    (ran : s.processPendingBatches order owner = some after) :
    after.stock = s.stock ∧ after.record = s.record ∧ after.promised ⊆ s.promised := by
  obtain ⟨free, rfl⟩ := process_pending_eq s after order owner ran
  refine ⟨stock_batched s _ rfl rfl rfl rfl ?_, rfl, ?_⟩
  · simp only [batched, handedOver, free]
    rfl
  · cases owner with
    | caller ref => exact absurd rfl (apart ref)
    | timer | close | wait index => simp [promised, free]

end Batches

section Work

variable (s : AsyncDB R V) (w : Nat)

theorem received_explained (op : AsyncOperation R V) (rest : List (AsyncOperation R V)) (found : s.workers[w]? = some .idle)
    (queued : s.queue = op :: rest) :
    Explained s (.receive w) { s with queue := rest, workers := s.workers.set w (.holding op) } := by
  have gone := stock_queue s op rest (by rw [queued, Multiset.cons_coe])
  have come := (Slots.exchange_come _ _ _).mp (worker_exchange { s with queue := rest } w .idle (.holding op) found)
  exact ⟨_, _, Slots.Exchange.replaced _ _ _ _ _ gone come, .passed op _ _ .receive rfl (List.Subset.refl _)⟩

theorem retried_explained (receiver : Option Nat) (op : AsyncOperation R V) (result : Except String Unit) (sent : AsyncDB R V)
    (found : s.workers[w]? = some (.retrying op)) (offered : s.enqueueOperation receiver op = some (result, sent)) :
    Explained s (.retry w receiver) { sent with workers := sent.workers.set w .idle } := by
  have kept := enqueue_offered _ _ _ _ _ offered
  obtain ⟨rest, was, _⟩ := worker_exchange s w (.retrying op) .idle found
  have gone : s.stock = (.held, op) ::ₘ rest := by simpa [Worker.stock] using was
  have put := (Slots.exchange_gone _ _ _).mp (worker_exchange sent w (.retrying op) .idle (kept.busy w _ found rfl))
  have promised' : ({ sent with workers := sent.workers.set w .idle } : AsyncDB R V).promised ⊆ s.promised := by
    rw [promised, promised, kept.holder, kept.accepted]
    exact List.Subset.refl _
  obtain ⟨_, _, stage, inside, more⟩ | ⟨_, same, noRoom⟩ := kept.stock
  · have way : Passes .held stage := by
      rcases inside with rfl | rfl
      · exact .retry
      · exact .direct
    have come : ({ sent with workers := sent.workers.set w .idle } : AsyncDB R V).stock = (stage, op) ::ₘ rest := by
      rw [gone, Multiset.cons_swap, put, Multiset.cons_inj_right] at more
      exact more
    exact ⟨_, _, Slots.Exchange.replaced _ _ _ _ _ gone come, .passed op _ _ way kept.record promised'⟩
  · have offers : s.offering (.retry w receiver) = some op := by simp [offering, found]
    refine ⟨_, [], (Slots.exchange_gone _ _ _).mpr ?_, .lost op .held offers noRoom kept.record promised'⟩
    rw [← same, put]

theorem completed_explained (op : AsyncOperation R V) (result : AsyncResult V) (found : s.workers[w]? = some (.finishing op result)) :
    Explained s (.complete w) { s.completeOperation op result with workers := s.workers.set w .idle } := by
  have gone := (Slots.exchange_gone _ _ _).mp (worker_exchange s w (.finishing op result) .idle found)
  refine ⟨_, _, Slots.Exchange.replaced _ _ _ _ _ gone ?_, .finished op result rfl (List.Subset.refl _)⟩
  simp only [stock, completeOperation, batched, handedOver, List.map_append, List.map_cons, List.map_nil, Slots.concat_eq,
    Multiset.map_cons, Multiset.add_cons]

end Work

theorem step_explained (before after : AsyncDB R V) (action : Action R V) (taken : before.step action = some after) :
    Explained before action after := by
  cases step_branch before after action taken with
  | idle _ waits | fires ref timer found | closes _ closing goes => exact explained_still before _ _ rfl rfl (List.Subset.refl _)
  | called type sql args resultHandler callback opened =>
    exact called_explained before type sql args resultHandler callback opened
  | batched ref receiver op found free =>
    exact add_to_batch_explained before ref receiver op _ free _ (Slots.find_erase before.calls _ op found)
  | accepted ref receiver op sent found offered =>
    have own : op.ref = ref := by simpa using List.find?_some found
    exact accepted_explained before ref receiver op _ sent own (Slots.find_erase before.calls _ op found) offered
  | rejected ref receiver op err sent found offered =>
    exact rejected_explained before ref receiver op _ err _ (Slots.find_erase before.calls _ op found) offered
  | sent receiver owner op batch pending result _ held offered =>
    exact sent_explained before _ receiver owner op batch pending result held offered
  | next owner batchID pending held => exact next_explained before _ owner batchID pending held
  | released owner held accepted waits returns => exact released_explained before _ owner held accepted _ waits returns
  | timed ref timer free found started begins =>
    subst begins
    exact timed_explained before _ timer.batchID _ _ free
  | sweeps order swept marked pending =>
    obtain ⟨stock, record, promised⟩ := process_pending_still before swept order .close (by simp) pending
    exact explained_still before _ _ stock record promised
  | waits order index swept waits pending =>
    obtain ⟨stock, record, promised⟩ := process_pending_still before swept order (.wait index) (by simp) pending
    exact explained_still before _ _ stock record promised
  | received w op rest found queued => exact received_explained before w op rest found queued
  | left _ w found => exact ⟨[], [], worker_exchange before w .idle .stopped found, .still rfl (List.Subset.refl _)⟩
  | answered w cancelled answer op result runs stats found own once =>
    exact ⟨_, _, worker_exchange { before with executed := before.executed ++ runs, stats := stats } w (.holding op)
      (.finishing op result) found, .answered op runs own once rfl (List.Subset.refl _)⟩
  | failed w cancelled answer op stats found again =>
    exact ⟨_, _, worker_exchange { before with executed := before.executed ++ [op.ref], stats := stats } w (.holding op)
      (.retrying { op with retryCount := op.retryCount + 1 }) found, .retried op again rfl (List.Subset.refl _)⟩
  | retried w receiver op result sent found offered => exact retried_explained before w receiver op result sent found offered
  | completed w op result found => exact completed_explained before w op result found

end MmoServer.Db.Async.AsyncDB
