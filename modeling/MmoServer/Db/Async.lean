import Mathlib
import MmoServer.Lib.GoMap
import MmoServer.Lib.Runs

set_option autoImplicit false

namespace MmoServer.Db.Async

structure AsyncConfig where
  queueSize : Nat
  workerCount : Nat
  maxRetries : Int
  enableBatching : Bool
  batchSize : Int
deriving DecidableEq, Repr

def defaultAsyncConfig : AsyncConfig where
  queueSize := 1000
  workerCount := 5
  maxRetries := 3
  enableBatching := true
  batchSize := 100

structure AsyncStats where
  queuedOperations : Nat := 0
  completedOperations : Nat := 0
  failedOperations : Nat := 0
  retryCount : Nat := 0
  batchesProcessed : Nat := 0
deriving DecidableEq, Repr

structure AsyncResult (V : Type) where
  success : Bool := false
  error : Option String := none
  rowsAffected : Int := 0
  data : Option V := none
deriving DecidableEq, Repr

inductive OperationType where
  | query
  | exec
deriving DecidableEq, Repr

-- Go strings are byte sequences. The number of the call that made an operation
-- stands for the pointer to it; of the callback it only matters whether it is nil.
structure AsyncOperation (R V : Type) where
  ref : Nat
  type : OperationType
  sql : List UInt8
  args : List V
  resultHandler : Option (R → Option V × Option String)
  callback : Bool
  retryCount : Nat := 0
  batchID : List UInt8 := []

def selectText : List UInt8 := [83, 69, 76, 69, 67, 84]
def insertText : List UInt8 := [73, 78, 83, 69, 82, 84]
def updateText : List UInt8 := [85, 80, 68, 65, 84, 69]
def deleteText : List UInt8 := [68, 69, 76, 69, 84, 69]

def isBatchableQuery (sql : List UInt8) : Bool := sql.length > 6 && sql.take 6 == selectText

def isBatchableExec (sql : List UInt8) : Bool :=
  if sql.length < 6 then false
  else
    let start := sql.take 6
    start == insertText || start == updateText || start == deleteText

def getBatchID (sql : List UInt8) : List UInt8 := if sql.length ≤ 20 then sql else sql.take 20

structure Answer (R : Type) where
  query : Except String R
  exec : Except String Int

-- Where a worker is: at its select, before the statement, asleep before a retry,
-- before the callback, or out of its loop.
inductive Worker (R V : Type) where
  | idle
  | holding (op : AsyncOperation R V)
  | retrying (op : AsyncOperation R V)
  | finishing (op : AsyncOperation R V) (result : AsyncResult V)
  | stopped

def Worker.isIdle {R V : Type} : Worker R V → Bool
  | .idle => true
  | _ => false

def Worker.isStopped {R V : Type} : Worker R V → Bool
  | .stopped => true
  | _ => false

inductive Closing where
  | notCalled
  | marked
  | sweeping
  | swept
  | stopping
  | waited
  | returned
deriving DecidableEq, Repr

namespace Closing

def isClosed (closing : Closing) : Bool := closing != .notCalled

def stopChanClosed (closing : Closing) : Bool := closing = .stopping ∨ closing = .waited ∨ closing = .returned

def queueClosed (closing : Closing) : Bool := closing = .returned

end Closing

inductive Waiting where
  | called
  | sweeping
  | polling
  | done
deriving DecidableEq, Repr

inductive Owner where
  | caller (ref : Nat)
  | timer
  | close
  | wait (index : Nat)
deriving DecidableEq, Repr

-- The goroutine that holds batchMu: the operations of its batch that processBatch
-- has not sent yet, and the batches the loop of processPendingBatches has ahead.
structure Holder (R V : Type) where
  owner : Owner
  batch : List (AsyncOperation R V)
  pending : List (List UInt8)

structure Timer where
  ref : Nat
  batchID : List UInt8
deriving DecidableEq, Repr

structure AsyncDB (R V : Type) where
  config : AsyncConfig
  queue : List (AsyncOperation R V)
  stats : AsyncStats
  batchQueues : GoMap (List UInt8) (List (AsyncOperation R V))
  batchTimers : GoMap (List UInt8) Nat
  calls : List (AsyncOperation R V)
  workers : List (Worker R V)
  holder : Option (Holder R V)
  timers : List Timer
  fired : List Timer
  closing : Closing
  waits : List Waiting
  nextOperation : Nat
  nextTimer : Nat
  accepted : List Nat
  executed : List Nat
  completed : List (AsyncOperation R V × AsyncResult V)
  callbacks : List Nat
  panicked : Bool

variable {R V : Type}

def newAsyncDB (config : Option AsyncConfig) : AsyncDB R V :=
  let config := config.getD defaultAsyncConfig
  { config := config, queue := [], stats := {}, batchQueues := ∅, batchTimers := ∅, calls := [],
    workers := List.replicate config.workerCount .idle, holder := none, timers := [], fired := [],
    closing := .notCalled, waits := [], nextOperation := 0, nextTimer := 0, accepted := [], executed := [],
    completed := [], callbacks := [], panicked := false }

namespace AsyncDB

-- The non-blocking send. A receiver is a worker parked at the empty queue, to which
-- the operation goes directly; none is parked once stopChan is closed. None as the
-- result is a schedule that cannot happen.
def enqueueOperation (receiver : Option Nat) (op : AsyncOperation R V) (s : AsyncDB R V) :
    Option (Except String Unit × AsyncDB R V) :=
  let queued := { s.stats with queuedOperations := s.stats.queuedOperations + 1 }
  match receiver with
  | some w =>
    if (s.workers[w]?.any Worker.isIdle && s.queue.isEmpty && !s.closing.stopChanClosed) = true then
      some (.ok (), { s with workers := s.workers.set w (.holding op), stats := queued })
    else none
  | none =>
    if s.closing.queueClosed = true then some (.error "send on closed channel", { s with panicked := true })
    else if s.queue.length < s.config.queueSize then some (.ok (), { s with queue := s.queue ++ [op], stats := queued })
    else some (.error "操作队列已满", s)

def processBatch (batchID : List UInt8) (s : AsyncDB R V) : List (AsyncOperation R V) × AsyncDB R V :=
  match s.batchQueues.lookup batchID with
  | none => ([], s)
  | some [] => ([], s)
  | some batch =>
    (batch, { s with batchQueues := s.batchQueues.erase batchID,
                     stats := { s.stats with batchesProcessed := s.stats.batchesProcessed + 1 } })

-- QueryAsync and ExecAsync up to the closed check, and the operation they build.
def call (type : OperationType) (sql : List UInt8) (args : List V) (resultHandler : Option (R → Option V × Option String))
    (callback : Bool) (s : AsyncDB R V) : AsyncDB R V :=
  if s.closing.isClosed = true then s
  else
    let op : AsyncOperation R V :=
      { ref := s.nextOperation, type := type, sql := sql, args := args, resultHandler := resultHandler, callback := callback }
    { s with calls := s.calls ++ [op], nextOperation := s.nextOperation + 1 }

def batches (op : AsyncOperation R V) (s : AsyncDB R V) : Bool :=
  s.config.enableBatching &&
    (match op.type with
     | .query => isBatchableQuery op.sql
     | .exec => isBatchableExec op.sql) &&
    getBatchID op.sql != []

def addToBatch (batchID : List UInt8) (op : AsyncOperation R V) (s : AsyncDB R V) : AsyncDB R V :=
  let op := { op with batchID := batchID }
  let batch := (s.batchQueues.lookup batchID).getD [] ++ [op]
  let s := { s with batchQueues := s.batchQueues.insert batchID batch }
  if s.config.batchSize ≤ batch.length then
    let (batch, s) := s.processBatch batchID
    { s with holder := some ⟨.caller op.ref, batch, []⟩ }
  else
    let s := { s with accepted := s.accepted ++ [op.ref] }
    match s.batchTimers.lookup batchID with
    | some _ => s
    | none =>
      { s with batchTimers := s.batchTimers.insert batchID s.nextTimer, timers := s.timers ++ [⟨s.nextTimer, batchID⟩],
               nextTimer := s.nextTimer + 1 }

def enter (ref : Nat) (receiver : Option Nat) (s : AsyncDB R V) : Option (AsyncDB R V) :=
  match s.calls.find? fun op => op.ref == ref with
  | none => none
  | some op =>
    let s := { s with calls := s.calls.eraseP fun op => op.ref == ref }
    if s.batches op = true then
      match s.holder with
      | some _ => none
      | none => some (s.addToBatch (getBatchID op.sql) op)
    else
      match s.enqueueOperation receiver op with
      | none => none
      | some (.ok (), s) => some { s with accepted := s.accepted ++ [ref] }
      | some (.error _, s) => some s

def send (receiver : Option Nat) (s : AsyncDB R V) : Option (AsyncDB R V) :=
  match s.holder with
  | some ⟨owner, op :: batch, pending⟩ =>
    match ({ s with holder := some ⟨owner, batch, pending⟩ } : AsyncDB R V).enqueueOperation receiver op with
    | none => none
    | some (_, s) => some s
  | _ => none

def advance (s : AsyncDB R V) : Option (AsyncDB R V) :=
  match s.holder with
  | some ⟨owner, [], batchID :: pending⟩ =>
    let (batch, s) := s.processBatch batchID
    some { s with holder := some ⟨owner, batch, pending⟩ }
  | some ⟨owner, [], []⟩ =>
    let s := { s with holder := none }
    match owner with
    | .caller ref => some { s with accepted := s.accepted ++ [ref] }
    | .timer => some s
    | .close => some { s with closing := .swept }
    | .wait index => some { s with waits := s.waits.set index .polling }
  | _ => none

def fire (ref : Nat) (s : AsyncDB R V) : Option (AsyncDB R V) :=
  match s.timers.find? fun timer => timer.ref == ref with
  | none => none
  | some timer =>
    some { s with timers := s.timers.filter (fun timer => timer.ref != ref), fired := s.fired ++ [timer] }

def processBatchByTimer (ref : Nat) (s : AsyncDB R V) : Option (AsyncDB R V) :=
  match s.holder with
  | some _ => none
  | none =>
    match s.fired.find? fun timer => timer.ref == ref with
    | none => none
    | some timer =>
      let s := { s with fired := s.fired.filter (fun timer => timer.ref != ref),
                        batchTimers := s.batchTimers.erase timer.batchID }
      let (batch, s) := s.processBatch timer.batchID
      some { s with holder := some ⟨.timer, batch, []⟩ }

def processPendingBatches (order : Shuffle (List UInt8)) (owner : Owner) (s : AsyncDB R V) : Option (AsyncDB R V) :=
  match s.holder with
  | some _ => none
  | none =>
    some { s with timers := s.timers.filter (fun timer => timer.ref ∉ s.batchTimers.values), batchTimers := ∅,
                  holder := some ⟨owner, [], order.apply s.batchQueues.keys⟩ }

def close (s : AsyncDB R V) : AsyncDB R V :=
  if s.closing.isClosed = true then s else { s with closing := .marked }

def closeNext (order : Shuffle (List UInt8)) (s : AsyncDB R V) : Option (AsyncDB R V) :=
  match s.closing with
  | .marked => (s.processPendingBatches order .close).map fun s => { s with closing := .sweeping }
  | .swept => some { s with closing := .stopping }
  | .stopping => if s.workers.all Worker.isStopped = true then some { s with closing := .waited } else none
  | .waited => some { s with closing := .returned }
  | _ => none

-- The goroutine of WaitForCompletion; when it is done the call can return nil.
def waitNext (order : Shuffle (List UInt8)) (index : Nat) (s : AsyncDB R V) : Option (AsyncDB R V) :=
  match s.waits[index]? with
  | some .called =>
    (s.processPendingBatches order (.wait index)).map fun s => { s with waits := s.waits.set index .sweeping }
  | some .polling =>
    if s.queue.length = 0 ∧ s.batchQueues.size = 0 then some { s with waits := s.waits.set index .done } else some s
  | _ => none

def receive (w : Nat) (s : AsyncDB R V) : Option (AsyncDB R V) :=
  match s.workers[w]?, s.queue with
  | some .idle, op :: rest => some { s with queue := rest, workers := s.workers.set w (.holding op) }
  | some .idle, [] =>
    if s.closing.queueClosed = true then some { s with workers := s.workers.set w .stopped } else none
  | _, _ => none

def stop (w : Nat) (s : AsyncDB R V) : Option (AsyncDB R V) :=
  match s.workers[w]? with
  | some .idle => if s.closing.stopChanClosed = true then some { s with workers := s.workers.set w .stopped } else none
  | _ => none

def execute (answer : Answer R) (op : AsyncOperation R V) : AsyncResult V × Option String :=
  match op.type with
  | .query =>
    match answer.query, op.resultHandler with
    | .error err, _ => ({}, some err)
    | .ok _, none => ({}, none)
    | .ok rows, some handler => ({ data := (handler rows).1 }, (handler rows).2)
  | .exec =>
    match answer.exec with
    | .error err => ({}, some err)
    | .ok count => ({ rowsAffected := count }, none)

-- processOperation, up to the sleep before a retry or to completeOperation.
def processOperation (cancelled : Option String) (answer : Answer R) (op : AsyncOperation R V) (s : AsyncDB R V) :
    Worker R V × AsyncDB R V :=
  match cancelled with
  | some err => (.finishing op { error := some ("操作已取消: " ++ err) }, s)
  | none =>
    let s := { s with executed := s.executed ++ [op.ref] }
    match execute answer op with
    | (result, none) => (.finishing op { result with success := true }, s)
    | (result, some err) =>
      if (op.retryCount : Int) < s.config.maxRetries then
        (.retrying { op with retryCount := op.retryCount + 1 },
          { s with stats := { s.stats with retryCount := s.stats.retryCount + 1 } })
      else
        (.finishing op { result with error := some ("操作失败: " ++ err) },
          { s with stats := { s.stats with failedOperations := s.stats.failedOperations + 1 } })

def process (w : Nat) (cancelled : Option String) (answer : Answer R) (s : AsyncDB R V) : Option (AsyncDB R V) :=
  match s.workers[w]? with
  | some (.holding op) =>
    let (worker, s) := s.processOperation cancelled answer op
    some { s with workers := s.workers.set w worker }
  | _ => none

-- The end of processOperation after a failure, which ignores the error as well.
def retry (w : Nat) (receiver : Option Nat) (s : AsyncDB R V) : Option (AsyncDB R V) :=
  match s.workers[w]? with
  | some (.retrying op) =>
    match s.enqueueOperation receiver op with
    | none => none
    | some (_, s) => some { s with workers := s.workers.set w .idle }
  | _ => none

def completeOperation (op : AsyncOperation R V) (result : AsyncResult V) (s : AsyncDB R V) : AsyncDB R V :=
  { s with completed := s.completed ++ [(op, result)],
           callbacks := if op.callback = true then s.callbacks ++ [op.ref] else s.callbacks,
           stats := { s.stats with completedOperations := s.stats.completedOperations + 1 } }

def complete (w : Nat) (s : AsyncDB R V) : Option (AsyncDB R V) :=
  match s.workers[w]? with
  | some (.finishing op result) =>
    let s := s.completeOperation op result
    some { s with workers := s.workers.set w .idle }
  | _ => none

end AsyncDB

inductive Action (R V : Type) where
  | call (type : OperationType) (sql : List UInt8) (args : List V) (resultHandler : Option (R → Option V × Option String))
      (callback : Bool)
  | enter (ref : Nat) (receiver : Option Nat)
  | send (receiver : Option Nat)
  | advance
  | fire (ref : Nat)
  | timer (ref : Nat)
  | close
  | closeNext (order : Shuffle (List UInt8))
  | waitForCompletion
  | waitNext (order : Shuffle (List UInt8)) (index : Nat)
  | receive (w : Nat)
  | stop (w : Nat)
  | process (w : Nat) (cancelled : Option String) (answer : Answer R)
  | retry (w : Nat) (receiver : Option Nat)
  | complete (w : Nat)

def AsyncDB.step (s : AsyncDB R V) (action : Action R V) : Option (AsyncDB R V) :=
  if s.panicked = true then none
  else
    match action with
    | .call type sql args resultHandler callback => some (s.call type sql args resultHandler callback)
    | .enter ref receiver => s.enter ref receiver
    | .send receiver => s.send receiver
    | .advance => s.advance
    | .fire ref => s.fire ref
    | .timer ref => s.processBatchByTimer ref
    | .close => some s.close
    | .closeNext order => s.closeNext order
    | .waitForCompletion => some { s with waits := s.waits ++ [.called] }
    | .waitNext order index => s.waitNext order index
    | .receive w => s.receive w
    | .stop w => s.stop w
    | .process w cancelled answer => s.process w cancelled answer
    | .retry w receiver => s.retry w receiver
    | .complete w => s.complete w

end MmoServer.Db.Async
