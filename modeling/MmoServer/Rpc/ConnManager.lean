import MmoServer.Lib.GoMap
import MmoServer.Lib.RWMutex
import MmoServer.Lib.Runs

set_option autoImplicit false

namespace MmoServer.Rpc

inductive Connectivity where
  | idle
  | connecting
  | ready
  | transientFailure
  | shutdown
deriving DecidableEq, Repr

-- The service clients are made from the connection and set together with it.
structure ClientConn where
  conn : Option Nat := none
  lastUsed : Nat
  creating : Bool
  creationComplete : Bool := false
deriving DecidableEq, Repr

structure ConnManager where
  heap : List ClientConn := []
  connections : GoMap String Nat := ∅
  mu : RWMutex := {}
  idleTimeout : Nat := 600
  stopCleanup : Bool := false
  dialed : Nat := 0
  shut : List Nat := []

inductive Dialed where
  | connected (conn : Nat)
  | failed (text : String)
deriving DecidableEq, Repr

inductive Reading where
  | looking
  | rereading
deriving DecidableEq, Repr

inductive Writing where
  | rechecking
  | finishing (ref : Nat) (dialed : Dialed)
  | closing
  | closingAll
  | cleaning (now : Nat)
deriving DecidableEq, Repr

inductive Phase where
  | rlock (next : Reading)
  | reading (now : Reading)
  | lock (next : Writing)
  | writing (now : Writing)
  | waiting (ref : Nat)
  | waitingLocked (ref : Nat)
  | unlockedReading
  | unlockingAgain
  | dialing (ref : Nat)
  | returned (ref : Nat)
  | reread (found : Option Nat)
  | failed (error : String)
  | finished
  | panicked
deriving DecidableEq, Repr

-- What the world answers in a step: the clock, the state of a connection, whether a timer
-- fires, how a dial ends, and the order in which a map is visited.
structure Choice where
  now : Nat := 0
  state : Connectivity := .ready
  timedOut : Bool := false
  dialError : Option String := none
  order : Shuffle (String × Nat) := .listed

structure Move where
  manager : ConnManager
  phase : Phase
  ops : List RWMutex.Op := []
  nilCall : Bool := false
  fatal : Bool := false

def timedOutWaiting : String := "timed out waiting for connection to be created"

namespace ConnManager

section Sections

variable (m : ConnManager)

def entry (endpoint : String) : Option (Nat × ClientConn) :=
  (m.connections.lookup endpoint).bind fun ref => m.heap[ref]?.map fun conn => (ref, conn)

def getState (conn : Nat) (state : Connectivity) : Connectivity := if conn ∈ m.shut then .shutdown else state

def Usable (conn : Nat) (state : Connectivity) : Prop :=
  m.getState conn state ≠ .shutdown ∧ m.getState conn state ≠ .transientFailure

instance decidableUsable (conn : Nat) (state : Connectivity) : Decidable (m.Usable conn state) :=
  inferInstanceAs (Decidable (_ ∧ _))

def unlock (phase : Phase) : Move :=
  match m.mu.unlock with
  | none => { manager := m, phase := .panicked, ops := [.unlock], fatal := true }
  | some mu => { manager := { m with mu }, phase, ops := [.unlock] }

def runlock (g : Nat) (phase : Phase) : Move :=
  match m.mu.runlock g with
  | none => { manager := m, phase := .panicked, ops := [.runlock], fatal := true }
  | some mu => { manager := { m with mu }, phase, ops := [.runlock] }

def touch (ref now : Nat) : ConnManager :=
  { m with heap := m.heap.modify ref fun conn => { conn with lastUsed := now } }

-- Only a panic leaves this section with the lock held: its release is not deferred.
def look (g : Nat) (endpoint : String) (choice : Choice) : Move :=
  match m.entry endpoint with
  | none => m.runlock g (.lock .rechecking)
  | some (ref, conn) =>
    if conn.creating then
      let move := m.runlock g (.waiting ref)
      { move with ops := move.ops ++ [.await] }
    else
      match conn.conn with
      | none => { manager := m, phase := .panicked, nilCall := true }
      | some grpcConn =>
        if m.Usable grpcConn choice.state then (m.touch ref choice.now).runlock g (.returned ref)
        else m.runlock g (.lock .rechecking)

-- The entry is published before the dial, without a connection.
def create (endpoint : String) (now : Nat) : Move :=
  ({ m with
    heap := m.heap ++ [{ lastUsed := now, creating := true }]
    connections := m.connections.insert endpoint m.heap.length } : ConnManager).unlock (.dialing m.heap.length)

def recheck (endpoint : String) (choice : Choice) : Move :=
  match m.entry endpoint with
  | none => m.create endpoint choice.now
  | some (ref, conn) =>
    if conn.creating then { manager := m, phase := .waitingLocked ref, ops := [.await] }
    else
      match conn.conn with
      | none =>
        let move := m.unlock .panicked
        { move with nilCall := true }
      | some grpcConn =>
        if m.Usable grpcConn choice.state then (m.touch ref choice.now).unlock (.returned ref)
        else
          create { m with shut := grpcConn :: m.shut, connections := m.connections.erase endpoint } endpoint choice.now

-- A failed dial removes whatever entry the endpoint has by now.
def finish (endpoint : String) (ref : Nat) : Dialed → Move
  | .failed text =>
    ({ m with
      heap := m.heap.modify ref fun conn => { conn with creationComplete := true }
      connections := m.connections.erase endpoint } : ConnManager).unlock
        (.failed ("failed to connect to " ++ endpoint ++ ": " ++ text))
  | .connected grpcConn =>
    ({ m with
      heap := m.heap.modify ref fun conn => { conn with conn := some grpcConn, creating := false, creationComplete := true } } :
        ConnManager).unlock (.returned ref)

-- A method of a nil connection panics; the deferred release is run.
def closeEntries (Due : ClientConn → Prop) [DecidablePred Due] : List (String × Nat) → ConnManager → ConnManager × Bool
  | [], m => (m, false)
  | (endpoint, ref) :: rest, m =>
    match m.heap[ref]? with
    | none => closeEntries Due rest m
    | some conn =>
      if Due conn then
        match conn.conn with
        | none => (m, true)
        | some grpcConn =>
          closeEntries Due rest { m with shut := grpcConn :: m.shut, connections := m.connections.erase endpoint }
      else closeEntries Due rest m

def closeAndUnlock (closed : ConnManager × Bool) : Move :=
  let move := closed.1.unlock (if closed.2 then .panicked else .finished)
  { move with nilCall := closed.2 }

def close (endpoint : String) : Move :=
  closeAndUnlock (closeEntries (fun _ => True) ((m.connections.lookup endpoint).toList.map fun ref => (endpoint, ref)) m)

def closeAll (order : Shuffle (String × Nat)) : Move :=
  if m.stopCleanup then m.unlock .panicked
  else closeAndUnlock (closeEntries (fun _ => True) (order.apply m.connections.pairs) { m with stopCleanup := true })

def cleanupIdleConnections (now : Nat) (order : Shuffle (String × Nat)) : Move :=
  closeAndUnlock (closeEntries (fun conn => m.idleTimeout < now - conn.lastUsed) (order.apply m.connections.pairs) m)

def Complete (ref : Nat) : Prop := ∃ conn ∈ m.heap[ref]?, conn.creationComplete = true

instance decidableComplete (ref : Nat) : Decidable (m.Complete ref) :=
  inferInstanceAs (Decidable (∃ conn ∈ m.heap[ref]?, conn.creationComplete = true))

def read (g : Nat) (endpoint : String) (choice : Choice) : Reading → Move
  | .looking => m.look g endpoint choice
  | .rereading => m.runlock g (.reread (m.connections.lookup endpoint))

def write (endpoint : String) (choice : Choice) : Writing → Move
  | .rechecking => m.recheck endpoint choice
  | .finishing ref dialed => m.finish endpoint ref dialed
  | .closing => m.close endpoint
  | .closingAll => m.closeAll choice.order
  | .cleaning now => m.cleanupIdleConnections now choice.order

def dial (ref : Nat) : Option String → Move
  | some text => { manager := m, phase := .lock (.finishing ref (.failed text)) }
  | none => { manager := { m with dialed := m.dialed + 1 }, phase := .lock (.finishing ref (.connected m.dialed)) }

-- A section and the release at its end are one step. In the select under the write lock the
-- once-only release comes first and the deferred one second.
def act (g : Nat) (endpoint : String) (choice : Choice) : Phase → Option Move
  | .rlock next => (m.mu.rlock g).map fun mu => { manager := { m with mu }, phase := .reading next, ops := [.rlock] }
  | .reading now => some (m.read g endpoint choice now)
  | .lock next => (m.mu.lock g).map fun mu => { manager := { m with mu }, phase := .writing next, ops := [.lock] }
  | .writing now => some (m.write endpoint choice now)
  | .waiting ref =>
    if choice.timedOut then some { manager := m, phase := .failed timedOutWaiting }
    else if m.Complete ref then some { manager := m, phase := .rlock .rereading } else none
  | .waitingLocked ref =>
    if choice.timedOut then some (m.unlock .unlockingAgain)
    else if m.Complete ref then some (m.unlock .unlockedReading) else none
  | .unlockedReading => some (m.unlock (.reread (m.connections.lookup endpoint)))
  | .unlockingAgain => some (m.unlock (.failed timedOutWaiting))
  | .dialing ref => some (m.dial ref choice.dialError)
  | .returned _ | .reread _ | .failed _ | .finished | .panicked => none

end Sections

end ConnManager

section System

inductive Request where
  | getConnection (endpoint : String)
  | close (endpoint : String)
  | closeAll
  | cleanupIdleConnections (now : Nat)
deriving DecidableEq, Repr

structure Goroutine where
  endpoint : String
  phase : Phase
  log : List RWMutex.Op := []
deriving DecidableEq, Repr

def Request.start : Request → Goroutine
  | getConnection endpoint => { endpoint, phase := .rlock .looking }
  | close endpoint => { endpoint, phase := .lock .closing }
  | closeAll => { endpoint := "", phase := .lock .closingAll }
  | cleanupIdleConnections now => { endpoint := "", phase := .lock (.cleaning now) }

structure ConnSystem where
  manager : ConnManager := {}
  goroutines : List Goroutine := []
  nilCall : Bool := false
  fatal : Bool := false

namespace ConnSystem

inductive Action where
  | call (request : Request)
  | step (g : Nat) (choice : Choice)

def apply (s : ConnSystem) (g : Nat) (move : Move) : ConnSystem where
  manager := move.manager
  goroutines := s.goroutines.modify g fun goroutine => { goroutine with phase := move.phase, log := goroutine.log ++ move.ops }
  nilCall := s.nilCall || move.nilCall
  fatal := move.fatal

def step (s : ConnSystem) : Action → ConnSystem
  | .call request => { s with goroutines := s.goroutines ++ [request.start] }
  | .step g choice =>
    if s.fatal then s
    else
      match s.goroutines[g]? with
      | none => s
      | some goroutine =>
        match s.manager.act g goroutine.endpoint choice goroutine.phase with
        | none => s
        | some move => s.apply g move

end ConnSystem

def Phase.result : Phase → Option (Except String (Option Nat))
  | returned ref => some (.ok (some ref))
  | reread found => some (.ok found)
  | failed error => some (.error error)
  | _ => none

-- What GetRPCServiceClient and the others make of it: a nil entry is dereferenced.
inductive ServiceClient where
  | error (text : String)
  | nilEntry
  | client (conn : Option Nat)
deriving DecidableEq, Repr

def ConnManager.serviceClient (m : ConnManager) : Except String (Option Nat) → ServiceClient
  | .error text => .error text
  | .ok none => .nilEntry
  | .ok (some ref) => .client (m.heap[ref]?.bind ClientConn.conn)

end System

end MmoServer.Rpc
