import MmoServer.Lib.Runs
import MmoServer.Redis.Lock

set_option autoImplicit false

namespace MmoServer.Redis

-- One acquisition and its renewal loop, with the timeout the loop was started with.
-- Of renewChan it is recorded by whose token it was closed; the loop runs until it
-- sees that, or a refresh fails.
structure LockInfo where
  key : String
  token : String
  timeout : Int
  renewChan : Option String
  running : Bool
deriving DecidableEq, Repr

-- The channel carries the key only; the token is the one whose release or failed
-- refresh has caused the request.
structure StopRequest where
  key : String
  cause : String
deriving DecidableEq, Repr

-- A TryAcquire that has its lock and is about to call startAutoRenew.
structure Starting where
  key : String
  token : String
  timeout : Int
deriving DecidableEq, Repr

structure RedisLock where
  config : LockConfig
  store : Store
  infos : List LockInfo
  activeLocks : GoMap String Nat
  starting : List Starting
  -- Calls of stopAutoRenew before their send, the channel, and the request in the
  -- hands of handleStopRenewals.
  senders : List StopRequest
  renewalStopChan : List StopRequest
  handling : Option StopRequest

def stopChanCapacity : Nat := 100

def newLock (config : Option LockConfig) (store : Store) : RedisLock :=
  { config := config.getD defaultLockConfig, store := store, infos := [], activeLocks := ∅, starting := [], senders := [],
    renewalStopChan := [], handling := none }

namespace RedisLock

def tryAcquire (random : Random) (fault : Option Fault) (key : String) (timeout : Int) (l : RedisLock) : RedisLock :=
  match l.config.tryAcquire random fault key timeout l.store with
  | (.ok (some token), store) =>
    { l with store := store,
             starting := if l.config.autoRenew = true then l.starting ++ [⟨key, token, l.config.timeoutOf timeout⟩] else l.starting }
  | (_, store) => { l with store := store }

def startAutoRenew (index : Nat) (l : RedisLock) : Option RedisLock :=
  match l.starting[index]? with
  | none => none
  | some start =>
    some { l with starting := l.starting.eraseIdx index,
                  infos := l.infos ++ [⟨start.key, start.token, start.timeout, none, true⟩],
                  activeLocks := l.activeLocks.insert start.key l.infos.length }

def release (fault : Option Fault) (key token : String) (l : RedisLock) : RedisLock :=
  match l.config.release fault key token l.store with
  | (.ok true, store) =>
    { l with store := store, senders := if l.config.autoRenew = true then l.senders ++ [⟨key, token⟩] else l.senders }
  | (_, store) => { l with store := store }

-- The timeout that Refresh notes in the lockInfo is read by nobody.
def refresh (fault : Option Fault) (key token : String) (timeout : Int) (l : RedisLock) : Except String Bool × RedisLock :=
  let (answer, store) := l.config.refresh fault key token timeout l.store
  (answer, { l with store := store })

def stopLoop (info : LockInfo) : LockInfo := { info with running := false }

-- A tick of the loop, which may come before it sees that renewChan is closed.
def tick (ref : Nat) (fault : Option Fault) (l : RedisLock) : Option RedisLock :=
  match l.infos[ref]? with
  | none => none
  | some info =>
    if info.running = true then
      match l.refresh fault info.key info.token info.timeout with
      | (.ok false, l) => some { l with infos := l.infos.modify ref stopLoop, senders := l.senders ++ [⟨info.key, info.token⟩] }
      | (_, l) => some l
    else none

def quit (ref : Nat) (l : RedisLock) : Option RedisLock :=
  match l.infos[ref]? with
  | none => none
  | some info =>
    if info.running = true ∧ info.renewChan.isSome = true then some { l with infos := l.infos.modify ref stopLoop } else none

def send (index : Nat) (l : RedisLock) : Option RedisLock :=
  match l.senders[index]? with
  | none => none
  | some request =>
    if l.renewalStopChan.length < stopChanCapacity then
      some { l with senders := l.senders.eraseIdx index, renewalStopChan := l.renewalStopChan ++ [request] }
    else none

def receive (l : RedisLock) : Option RedisLock :=
  match l.handling, l.renewalStopChan with
  | none, request :: rest => some { l with renewalStopChan := rest, handling := some request }
  | _, _ => none

def closeChan (cause : String) (info : LockInfo) : LockInfo := { info with renewChan := some cause }

def handleStop (l : RedisLock) : Option RedisLock :=
  match l.handling with
  | none => none
  | some request =>
    match l.activeLocks.lookup request.key with
    | none => some { l with handling := none }
    | some ref =>
      some { l with handling := none, infos := l.infos.modify ref (closeChan request.cause),
                    activeLocks := l.activeLocks.erase request.key }

end RedisLock

inductive RenewalAction where
  | tryAcquire (random : Random) (fault : Option Fault) (key : String) (timeout : Int)
  | startAutoRenew (index : Nat)
  | release (fault : Option Fault) (key token : String)
  | refresh (fault : Option Fault) (key token : String) (timeout : Int)
  | tick (ref : Nat) (fault : Option Fault)
  | quit (ref : Nat)
  | send (index : Nat)
  | receive
  | handleStop
  | elapse (ms : Nat)

namespace RedisLock

def step (l : RedisLock) : RenewalAction → Option RedisLock
  | .tryAcquire random fault key timeout => some (l.tryAcquire random fault key timeout)
  | .startAutoRenew index => l.startAutoRenew index
  | .release fault key token => some (l.release fault key token)
  | .refresh fault key token timeout => some (l.refresh fault key token timeout).2
  | .tick ref fault => l.tick ref fault
  | .quit ref => l.quit ref
  | .send index => l.send index
  | .receive => l.receive
  | .handleStop => l.handleStop
  | .elapse ms => some { l with store := l.store.elapse ms }

end RedisLock

end MmoServer.Redis
