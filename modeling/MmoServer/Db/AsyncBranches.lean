import MmoServer.Db.Async

set_option autoImplicit false

namespace MmoServer.Db.Async

variable {R V : Type}

inductive Closing.Goes (workers : List (Worker R V)) : Closing → Closing → Prop where
  | call : Goes workers .notCalled .marked
  | stop : Goes workers .swept .stopping
  | wait (all : workers.all Worker.isStopped = true) : Goes workers .stopping .waited
  | queue : Goes workers .waited .returned

namespace AsyncDB

inductive Branch (s : AsyncDB R V) : Action R V → AsyncDB R V → Prop where
  | idle (action : Action R V) (waits : List Waiting) : Branch s action { s with waits := waits }
  | called (type : OperationType) (sql : List UInt8) (args : List V) (resultHandler : Option (R → Option V × Option String))
      (callback : Bool) (opened : s.closing.isClosed = false) :
      Branch s (.call type sql args resultHandler callback) { s with
        calls := s.calls ++ [{ ref := s.nextOperation, type, sql, args, resultHandler, callback }]
        nextOperation := s.nextOperation + 1 }
  | batched (ref : Nat) (receiver : Option Nat) (op : AsyncOperation R V)
      (found : (s.calls.find? fun op => op.ref == ref) = some op) (free : s.holder = none) :
      Branch s (.enter ref receiver)
        (({ s with calls := s.calls.eraseP fun op => op.ref == ref } : AsyncDB R V).addToBatch (getBatchID op.sql) op)
  | accepted (ref : Nat) (receiver : Option Nat) (op : AsyncOperation R V) (sent : AsyncDB R V)
      (found : (s.calls.find? fun op => op.ref == ref) = some op)
      (offered : ({ s with calls := s.calls.eraseP fun op => op.ref == ref } : AsyncDB R V).enqueueOperation receiver op =
        some (.ok (), sent)) :
      Branch s (.enter ref receiver) { sent with accepted := sent.accepted ++ [ref] }
  | rejected (ref : Nat) (receiver : Option Nat) (op : AsyncOperation R V) (err : String) (sent : AsyncDB R V)
      (found : (s.calls.find? fun op => op.ref == ref) = some op)
      (offered : ({ s with calls := s.calls.eraseP fun op => op.ref == ref } : AsyncDB R V).enqueueOperation receiver op =
        some (.error err, sent)) :
      Branch s (.enter ref receiver) sent
  | sent (receiver : Option Nat) (owner : Owner) (op : AsyncOperation R V) (batch : List (AsyncOperation R V))
      (pending : List (List UInt8)) (result : Except String Unit) (after : AsyncDB R V)
      (held : s.holder = some ⟨owner, op :: batch, pending⟩)
      (offered : ({ s with holder := some ⟨owner, batch, pending⟩ } : AsyncDB R V).enqueueOperation receiver op =
        some (result, after)) :
      Branch s (.send receiver) after
  | next (owner : Owner) (batchID : List UInt8) (pending : List (List UInt8))
      (held : s.holder = some ⟨owner, [], batchID :: pending⟩) :
      Branch s .advance { (s.processBatch batchID).2 with holder := some ⟨owner, (s.processBatch batchID).1, pending⟩ }
  | released (owner : Owner) (held : s.holder = some ⟨owner, [], []⟩) (accepted : List Nat) (waits : List Waiting)
      (returns : accepted = s.accepted ++ match owner with
        | .caller ref => [ref]
        | _ => []) :
      Branch s .advance { s with
        holder := none
        accepted := accepted
        closing := if owner = .close then .swept else s.closing
        waits := waits }
  | fires (ref : Nat) (timer : Timer) (found : (s.timers.find? fun timer => timer.ref == ref) = some timer) :
      Branch s (.fire ref) { s with
        timers := s.timers.filter (fun timer => timer.ref != ref)
        fired := s.fired ++ [timer] }
  | timed (ref : Nat) (timer : Timer) (free : s.holder = none) (found : (s.fired.find? fun timer => timer.ref == ref) = some timer)
      (started : AsyncDB R V)
      (begins : started = { s with
        fired := s.fired.filter (fun timer => timer.ref != ref)
        batchTimers := s.batchTimers.erase timer.batchID }) :
      Branch s (.timer ref) { (started.processBatch timer.batchID).2 with
        holder := some ⟨.timer, (started.processBatch timer.batchID).1, []⟩ }
  | closes (action : Action R V) (closing : Closing) (goes : s.closing.Goes s.workers closing) :
      Branch s action { s with closing := closing }
  | sweeps (order : Shuffle (List UInt8)) (swept : AsyncDB R V) (marked : s.closing = .marked)
      (pending : s.processPendingBatches order .close = some swept) :
      Branch s (.closeNext order) { swept with closing := .sweeping }
  | waits (order : Shuffle (List UInt8)) (index : Nat) (swept : AsyncDB R V) (waits : List Waiting)
      (pending : s.processPendingBatches order (.wait index) = some swept) :
      Branch s (.waitNext order index) { swept with waits := waits }
  | received (w : Nat) (op : AsyncOperation R V) (rest : List (AsyncOperation R V)) (found : s.workers[w]? = some .idle)
      (queued : s.queue = op :: rest) :
      Branch s (.receive w) { s with queue := rest, workers := s.workers.set w (.holding op) }
  | left (action : Action R V) (w : Nat) (found : s.workers[w]? = some .idle) (stopping : s.closing.stopChanClosed = true)
      (reason : action = .stop w ∨ s.queue = []) :
      Branch s action { s with workers := s.workers.set w .stopped }
  | answered (w : Nat) (cancelled : Option String) (answer : Answer R) (op : AsyncOperation R V) (result : AsyncResult V)
      (runs : List Nat) (stats : AsyncStats) (found : s.workers[w]? = some (.holding op)) (own : runs ⊆ [op.ref])
      (once : runs.length ≤ 1) :
      Branch s (.process w cancelled answer) { s with
        executed := s.executed ++ runs
        stats := stats
        workers := s.workers.set w (.finishing op result) }
  | failed (w : Nat) (cancelled : Option String) (answer : Answer R) (op : AsyncOperation R V) (stats : AsyncStats)
      (found : s.workers[w]? = some (.holding op)) (again : (op.retryCount : Int) < s.config.maxRetries) :
      Branch s (.process w cancelled answer) { s with
        executed := s.executed ++ [op.ref]
        stats := stats
        workers := s.workers.set w (.retrying { op with retryCount := op.retryCount + 1 }) }
  | retried (w : Nat) (receiver : Option Nat) (op : AsyncOperation R V) (result : Except String Unit) (sent : AsyncDB R V)
      (found : s.workers[w]? = some (.retrying op)) (offered : s.enqueueOperation receiver op = some (result, sent)) :
      Branch s (.retry w receiver) { sent with workers := sent.workers.set w .idle }
  | completed (w : Nat) (op : AsyncOperation R V) (result : AsyncResult V) (found : s.workers[w]? = some (.finishing op result)) :
      Branch s (.complete w) { s.completeOperation op result with workers := s.workers.set w .idle }

section Branches

variable (s after : AsyncDB R V)

theorem process_pending_eq (order : Shuffle (List UInt8)) (owner : Owner) (ran : s.processPendingBatches order owner = some after) :
    s.holder = none ∧ after = { s with
      timers := s.timers.filter (fun timer => timer.ref ∉ s.batchTimers.values)
      batchTimers := ∅
      holder := some ⟨owner, [], order.apply s.batchQueues.keys⟩ } := by
  simp only [processPendingBatches] at ran
  split at ran
  · cases ran
  · rename_i free
    exact ⟨free, (Option.some.inj ran).symm⟩

theorem enter_branch (ref : Nat) (receiver : Option Nat) (ran : s.enter ref receiver = some after) :
    s.Branch (.enter ref receiver) after := by
  simp only [enter] at ran
  split at ran
  · cases ran
  · rename_i op found
    split at ran
    · split at ran <;> cases ran
      exact .batched ref receiver op found ‹_›
    · split at ran <;> cases ran
      · exact .accepted ref receiver op _ found ‹_›
      · exact .rejected ref receiver op _ _ found ‹_›

theorem send_branch (receiver : Option Nat) (ran : s.send receiver = some after) : s.Branch (.send receiver) after := by
  simp only [send] at ran
  split at ran
  · split at ran <;> cases ran
    exact .sent receiver _ _ _ _ _ _ ‹_› ‹_›
  · cases ran

theorem advance_branch (ran : s.advance = some after) : s.Branch .advance after := by
  simp only [advance] at ran
  split at ran
  · cases ran
    exact .next _ _ _ ‹_›
  · rename_i owner held
    cases owner with
    | caller ref =>
      cases ran
      exact .released (.caller ref) held _ s.waits rfl
    | timer =>
      cases ran
      exact .released .timer held s.accepted s.waits (by simp)
    | close =>
      cases ran
      exact .released .close held s.accepted s.waits (by simp)
    | wait index =>
      cases ran
      exact .released (.wait index) held s.accepted _ (by simp)
  · cases ran

theorem timer_branch (ref : Nat) (ran : s.processBatchByTimer ref = some after) : s.Branch (.timer ref) after := by
  simp only [processBatchByTimer] at ran
  split at ran
  · cases ran
  · split at ran <;> cases ran
    exact .timed ref _ ‹_› ‹_› _ rfl

theorem close_next_branch (order : Shuffle (List UInt8)) (ran : s.closeNext order = some after) :
    s.Branch (.closeNext order) after := by
  simp only [closeNext] at ran
  split at ran
  · obtain ⟨swept, pending, rfl⟩ := Option.map_eq_some_iff.mp ran
    exact .sweeps order swept ‹_› pending
  · rename_i reached
    cases ran
    exact .closes _ _ (reached ▸ .stop)
  · rename_i reached
    split at ran <;> cases ran
    exact .closes _ _ (reached ▸ .wait ‹_›)
  · rename_i reached
    cases ran
    exact .closes _ _ (reached ▸ .queue)
  · cases ran

theorem wait_next_branch (order : Shuffle (List UInt8)) (index : Nat) (ran : s.waitNext order index = some after) :
    s.Branch (.waitNext order index) after := by
  simp only [waitNext] at ran
  split at ran
  · obtain ⟨swept, pending, rfl⟩ := Option.map_eq_some_iff.mp ran
    exact .waits order index swept _ pending
  · split at ran <;> cases ran <;> exact .idle _ _
  · cases ran

theorem receive_branch (w : Nat) (ran : s.receive w = some after) : s.Branch (.receive w) after := by
  simp only [receive] at ran
  split at ran
  · cases ran
    exact .received w _ _ ‹_› ‹_›
  · rename_i found empty
    split at ran <;> cases ran
    refine .left _ w found ?_ (.inr empty)
    simp_all [Closing.queueClosed, Closing.stopChanClosed]
  · cases ran

theorem process_operation_cases (cancelled : Option String) (answer : Answer R) (op : AsyncOperation R V) :
    ∃ worker runs stats, s.processOperation cancelled answer op =
        (worker, { s with executed := s.executed ++ runs, stats := stats }) ∧
      ((∃ result, worker = .finishing op result) ∧ runs ⊆ [op.ref] ∧ runs.length ≤ 1 ∨
        worker = .retrying { op with retryCount := op.retryCount + 1 } ∧ runs = [op.ref] ∧
          (op.retryCount : Int) < s.config.maxRetries) := by
  cases cancelled with
  | some err =>
    refine ⟨.finishing op { error := some ("操作已取消: " ++ err) }, [], s.stats, ?_, .inl ⟨⟨_, rfl⟩, by simp⟩⟩
    rw [List.append_nil]
    rfl
  | none =>
    simp only [processOperation]
    obtain ⟨result, _ | err⟩ := execute answer op
    · exact ⟨_, [op.ref], _, rfl, .inl ⟨⟨_, rfl⟩, by simp⟩⟩
    · by_cases again : (op.retryCount : Int) < s.config.maxRetries
      · exact ⟨_, [op.ref], _, if_pos again, .inr ⟨rfl, rfl, again⟩⟩
      · exact ⟨_, [op.ref], _, if_neg again, .inl ⟨⟨_, rfl⟩, by simp⟩⟩

theorem process_branch (w : Nat) (cancelled : Option String) (answer : Answer R) (ran : s.process w cancelled answer = some after) :
    s.Branch (.process w cancelled answer) after := by
  simp only [process] at ran
  split at ran
  · rename_i op found
    obtain ⟨worker, runs, stats, processed, cases⟩ := process_operation_cases s cancelled answer op
    simp only [processed, Option.some_inj] at ran
    subst ran
    rcases cases with ⟨⟨result, rfl⟩, own, once⟩ | ⟨rfl, rfl, again⟩
    · exact .answered w cancelled answer op result runs stats found own once
    · exact .failed w cancelled answer op stats found again
  · cases ran

end Branches

theorem step_branch (s after : AsyncDB R V) (action : Action R V) (taken : s.step action = some after) : s.Branch action after := by
  simp only [step] at taken
  split at taken
  · cases taken
  · cases action with
    | call type sql args resultHandler callback =>
      cases taken
      unfold call
      split
      · exact .idle _ s.waits
      · rename_i opened
        exact .called type sql args resultHandler callback (by simpa using opened)
    | enter ref receiver => exact enter_branch s after ref receiver taken
    | send receiver => exact send_branch s after receiver taken
    | advance => exact advance_branch s after taken
    | fire ref =>
      simp only [fire] at taken
      split at taken <;> cases taken
      exact .fires ref _ ‹_›
    | timer ref => exact timer_branch s after ref taken
    | close =>
      cases taken
      unfold close
      split
      · exact .idle _ s.waits
      · rename_i uncalled
        have first : s.closing = .notCalled := by simpa [Closing.isClosed] using uncalled
        exact .closes _ _ (first ▸ .call)
    | closeNext order => exact close_next_branch s after order taken
    | waitForCompletion =>
      cases taken
      exact .idle _ _
    | waitNext order index => exact wait_next_branch s after order index taken
    | receive w => exact receive_branch s after w taken
    | stop w =>
      simp only [stop] at taken
      split at taken
      · split at taken <;> cases taken
        exact .left _ w ‹_› ‹_› (.inl rfl)
      · cases taken
    | process w cancelled answer => exact process_branch s after w cancelled answer taken
    | retry w receiver =>
      simp only [retry] at taken
      split at taken
      · split at taken <;> cases taken
        exact .retried w receiver _ _ _ ‹_› ‹_›
      · cases taken
    | complete w =>
      simp only [complete] at taken
      split at taken <;> cases taken
      exact .completed w _ _ ‹_›

end AsyncDB

end MmoServer.Db.Async
