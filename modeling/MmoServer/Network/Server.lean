import MmoServer.Lib.GoMap
import MmoServer.Lib.RWMutex
import MmoServer.Lib.Runs
import MmoServer.Network.WritePump

set_option autoImplicit false

namespace MmoServer.Network

structure Client where
  id : String
  lastPing : Nat
  closed : Bool := false
  closeMutex : Option Nat := none
  outbox : Outbox := {}
deriving DecidableEq, Repr

structure Server where
  heartbeatIntervalSec : Nat
  heap : List Client := []
  clients : GoMap String Nat := ∅
  clientsLock : RWMutex := {}

inductive Operation where
  | checkHeartbeats (now : Nat)
  | broadcast (message : List UInt8)
  | stop
deriving DecidableEq, Repr

structure Loop where
  op : Operation
  id : String
  rest : List (String × Nat)
deriving DecidableEq, Repr

inductive Phase where
  | starting (op : Operation)
  | looping (op : Operation) (rest : List (String × Nat))
  | closing (ref : Nat) (caller : Option Loop)
  | relocking (ref : Nat) (caller : Option Loop)
  | removing (ref : Nat) (caller : Option Loop)
  | done
deriving DecidableEq, Repr

def Phase.calls : Phase → List Nat
  | .closing ref (some _) => [ref]
  | _ => []

namespace Server

variable (s : Server)

section Loops

def acquire (g : Nat) : Operation → Option RWMutex
  | .broadcast _ => s.clientsLock.rlock g
  | .checkHeartbeats _ | .stop => s.clientsLock.lock g

def release (g : Nat) : Operation → Option RWMutex
  | .broadcast _ => s.clientsLock.runlock g
  | .checkHeartbeats _ | .stop => s.clientsLock.unlock

def timeout : Nat := s.heartbeatIntervalSec * 2 * 1000000000

def TimedOut (now : Nat) (client : Client) : Prop := s.timeout < now - client.lastPing

instance decidableTimedOut (now : Nat) (client : Client) : Decidable (s.TimedOut now client) :=
  inferInstanceAs (Decidable (_ < _))

def visit (op : Operation) (id : String) (ref : Nat) (rest : List (String × Nat)) (client : Client) : Server × Phase :=
  match op with
  | .checkHeartbeats now =>
    if s.TimedOut now client then (s, .closing ref (some ⟨op, id, rest⟩)) else (s, .looping op rest)
  | .broadcast message =>
    match client.outbox.offer message with
    | some outbox => ({ s with heap := s.heap.set ref { client with outbox } }, .looping op rest)
    | none => (s, .closing ref (some ⟨op, id, rest⟩))
  | .stop => (s, .closing ref (some ⟨op, id, rest⟩))

-- After Close the heartbeat check removes the entry once more.
def resume : Option Loop → Server × Phase
  | none => (s, .done)
  | some loop =>
    match loop.op with
    | .checkHeartbeats _ => ({ s with clients := s.clients.erase loop.id }, .looping loop.op loop.rest)
    | .broadcast _ | .stop => (s, .looping loop.op loop.rest)

end Loops

section Steps

-- Close takes the mutex of the client and then, if it is the first, the lock of the table.
def act (g : Nat) (order : Shuffle (String × Nat)) : Phase → Option (Server × Phase)
  | .starting op =>
    (s.acquire g op).map fun clientsLock => ({ s with clientsLock }, .looping op (order.apply s.clients.pairs))
  | .looping op [] => (s.release g op).map fun clientsLock => ({ s with clientsLock }, .done)
  | .looping op ((id, ref) :: rest) => s.heap[ref]?.map (s.visit op id ref rest)
  | .closing ref caller =>
    match s.heap[ref]? with
    | none => none
    | some client =>
      if client.closeMutex ≠ none then none
      else if client.closed then some (s.resume caller)
      else some ({ s with heap := s.heap.set ref { client with closed := true, closeMutex := some g } }, .relocking ref caller)
  | .relocking ref caller => (s.clientsLock.lock g).map fun clientsLock => ({ s with clientsLock }, .removing ref caller)
  | .removing ref caller =>
    match s.heap[ref]?, s.clientsLock.unlock with
    | some client, some clientsLock =>
      some (resume { s with
        heap := s.heap.set ref { client with closeMutex := none }
        clients := s.clients.erase client.id
        clientsLock } caller)
    | _, _ => none
  | .done => none

inductive Acts (g : Nat) (order : Shuffle (String × Nat)) : Phase → Server × Phase → Prop where
  | acquired (op : Operation) (clientsLock : RWMutex) (acquired : s.acquire g op = some clientsLock) :
      Acts g order (.starting op) ({ s with clientsLock }, .looping op (order.apply s.clients.pairs))
  | released (op : Operation) (clientsLock : RWMutex) (released : s.release g op = some clientsLock) :
      Acts g order (.looping op []) ({ s with clientsLock }, .done)
  | visited (op : Operation) (id : String) (ref : Nat) (rest : List (String × Nat)) (client : Client)
      (found : s.heap[ref]? = some client) : Acts g order (.looping op ((id, ref) :: rest)) (s.visit op id ref rest client)
  | returned (ref : Nat) (caller : Option Loop) (client : Client) (found : s.heap[ref]? = some client)
      (free : client.closeMutex = none) (closed : client.closed = true) : Acts g order (.closing ref caller) (s.resume caller)
  | closed (ref : Nat) (caller : Option Loop) (client : Client) (found : s.heap[ref]? = some client) :
      Acts g order (.closing ref caller)
        ({ s with heap := s.heap.set ref { client with closed := true, closeMutex := some g } }, .relocking ref caller)
  | locked (ref : Nat) (caller : Option Loop) (clientsLock : RWMutex) (locked : s.clientsLock.lock g = some clientsLock) :
      Acts g order (.relocking ref caller) ({ s with clientsLock }, .removing ref caller)
  | removed (ref : Nat) (caller : Option Loop) (client : Client) (clientsLock : RWMutex) (found : s.heap[ref]? = some client)
      (unlocked : s.clientsLock.unlock = some clientsLock) :
      Acts g order (.removing ref caller) (resume { s with
        heap := s.heap.set ref { client with closeMutex := none }
        clients := s.clients.erase client.id
        clientsLock } caller)

theorem act_acts (g : Nat) (order : Shuffle (String × Nat)) (phase : Phase) (moved : Server × Phase)
    (acted : s.act g order phase = some moved) : s.Acts g order phase moved := by
  cases phase with
  | starting op =>
    obtain ⟨clientsLock, acquired, rfl⟩ := Option.map_eq_some_iff.mp acted
    exact .acquired op clientsLock acquired
  | looping op rest =>
    cases rest with
    | nil =>
      obtain ⟨clientsLock, released, rfl⟩ := Option.map_eq_some_iff.mp acted
      exact .released op clientsLock released
    | cons entry rest =>
      obtain ⟨client, found, rfl⟩ := Option.map_eq_some_iff.mp acted
      exact .visited op entry.1 entry.2 rest client found
  | closing ref caller =>
    cases found : s.heap[ref]? with
    | none =>
      simp only [act, found] at acted
      cases acted
    | some client =>
      simp only [act, found] at acted
      split at acted
      · cases acted
      · rename_i free
        split at acted <;> cases acted
        · rename_i closed
          exact .returned ref caller client found (not_not.mp free) closed
        · exact .closed ref caller client found
  | relocking ref caller =>
    obtain ⟨clientsLock, locked, rfl⟩ := Option.map_eq_some_iff.mp acted
    exact .locked ref caller clientsLock locked
  | removing ref caller =>
    rw [act] at acted
    split at acted <;> cases acted
    rename_i client clientsLock found unlocked
    exact .removed ref caller client clientsLock found unlocked
  | done => cases acted

end Steps

end Server

structure Goroutine where
  op : Option Operation
  phase : Phase
  closes : List Nat := []
deriving DecidableEq, Repr

structure System where
  server : Server
  goroutines : List Goroutine := []

namespace System

inductive Action where
  | connect (id : String) (now : Nat)
  | pong (ref now : Nat)
  | sendMessage (ref : Nat) (message : List UInt8)
  | writePump (ref : Nat)
  | close (ref : Nat)
  | call (op : Operation)
  | step (g : Nat) (order : Shuffle (String × Nat))

def start (heartbeatIntervalSec : Nat) : System := { server := { heartbeatIntervalSec } }

variable (s : System)

def apply (g : Nat) (goroutine : Goroutine) (moved : Server × Phase) : System where
  server := moved.1
  goroutines := s.goroutines.set g { goroutine with phase := moved.2, closes := goroutine.closes ++ moved.2.calls }

def update (ref : Nat) (change : Client → Client) : System :=
  { s with server := { s.server with heap := s.server.heap.modify ref change } }

-- A new client is entered under the lock. Nothing more is written to a closed connection.
def step : Action → System
  | .connect id now =>
    if s.server.clientsLock.writer = none ∧ s.server.clientsLock.readers = [] then
      { s with server := { s.server with
        heap := s.server.heap ++ [{ id, lastPing := now }]
        clients := s.server.clients.insert id s.server.heap.length } }
    else s
  | .pong ref now => s.update ref fun client => { client with lastPing := now }
  | .sendMessage ref message => s.update ref fun client => { client with outbox := (client.outbox.sendMessage message).2 }
  | .writePump ref => s.update ref fun client => if client.closed then client else { client with outbox := client.outbox.writePump }
  | .close ref => { s with goroutines := s.goroutines ++ [{ op := none, phase := .closing ref none }] }
  | .call op => { s with goroutines := s.goroutines ++ [{ op := some op, phase := .starting op }] }
  | .step g order =>
    match s.goroutines[g]? with
    | none => s
    | some goroutine =>
      match s.server.act g order goroutine.phase with
      | none => s
      | some moved => s.apply g goroutine moved

end System

end MmoServer.Network
