import MmoServer.Gateway.Session

set_option autoImplicit false

namespace MmoServer.Gateway

open Protocol

abbrev SessionRef := Nat

inductive SessionError where
  | sessionNotFound
  | sessionAlreadyExists
deriving DecidableEq, Repr

-- All sessions there are, by their pointers, and those in the map of the manager.
structure SessionManager where
  heap : List Session := []
  sessions : GoMap (List UInt8) SessionRef := ∅
  heartbeatTTL : Int
  closedConns : List Transport := []

namespace SessionManager

def change (ref : SessionRef) (f : Session → Session) (m : SessionManager) : SessionManager :=
  { m with heap := m.heap.modify ref f }

def markClosed (ref : SessionRef) (m : SessionManager) : SessionManager := m.change ref fun s => { s with closed := true }

def alloc (s : Session) (m : SessionManager) : SessionManager := { m with heap := m.heap ++ [s] }

def getSession (sessionID : List UInt8) (m : SessionManager) : Option SessionRef := m.sessions.lookup sessionID

def addSession (ref : SessionRef) (m : SessionManager) : Except SessionError Unit × SessionManager :=
  match m.heap[ref]? with
  | none => (.ok (), m)
  | some s =>
    match m.sessions.lookup s.id with
    | some _ => (.error .sessionAlreadyExists, m)
    | none => (.ok (), { m with sessions := m.sessions.insert s.id ref })

def getOrCreate (sessionID : List UInt8) (now : Int) (m : SessionManager) : SessionRef × SessionManager :=
  match m.sessions.lookup sessionID with
  | some ref => (ref, m.change ref (Session.updateLastActiveTime now))
  | none =>
    let ref := m.heap.length
    let created := m.alloc { id := sessionID, connectionType := .quic, lastActivity := now }
    (ref, { created with sessions := created.sessions.insert sessionID ref })

-- The flag is set here; the connection of the session is not touched.
def removeSession (sessionID : List UInt8) (m : SessionManager) : Except SessionError Unit × SessionManager :=
  match m.sessions.lookup sessionID with
  | none => (.error .sessionNotFound, m)
  | some ref => (.ok (), { m.markClosed ref with sessions := m.sessions.erase sessionID })

def Expired (m : SessionManager) (now : Int) (ref : SessionRef) : Prop :=
  ∃ s ∈ m.heap[ref]?, m.heartbeatTTL < now - s.lastActivity

instance decidableExpired (m : SessionManager) (now : Int) (ref : SessionRef) : Decidable (m.Expired now ref) :=
  match found : m.heap[ref]? with
  | none => .isFalse (by simp [Expired, found])
  | some s => decidable_of_iff (m.heartbeatTTL < now - s.lastActivity) (by simp [Expired, found])

def expiredSessions (now : Int) (order : Shuffle (List UInt8 × SessionRef)) (m : SessionManager) : List (List UInt8) :=
  ((order.apply m.sessions.pairs).filter fun entry => m.Expired now entry.2).map Prod.fst

def checkHeartbeats (now : Int) (order : Shuffle (List UInt8 × SessionRef)) (m : SessionManager) : SessionManager :=
  (m.expiredSessions now order).foldl (fun m sessionID => (m.removeSession sessionID).2) m

def stop (order : Shuffle SessionRef) (m : SessionManager) : SessionManager :=
  { (order.apply m.sessions.values).foldl (fun m ref => m.markClosed ref) m with sessions := ∅ }

def closeSession (ref : SessionRef) (m : SessionManager) : SessionManager :=
  match m.heap[ref]? with
  | none => m
  | some s => { m.change ref (fun s => s.close.1) with closedConns := m.closedConns ++ s.close.2 }

end SessionManager

end MmoServer.Gateway
