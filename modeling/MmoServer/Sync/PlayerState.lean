import MmoServer.Aoi.Placement

set_option autoImplicit false

namespace MmoServer.Sync

open Aoi

structure PlayerState where
  ID : String
  position : Position
  velocity : Position
  rotation : ℚ
  lastSyncTime : Int
  lastUpdateTime : Int
  updateMask : UInt32

abbrev PlayerRef := Nat

-- The players map and the AOI grids share PlayerState objects by reference.
abbrev PlayerHeap := PlayerRef → PlayerState

def PlayerHeap.write (heap : PlayerHeap) (player : PlayerRef) (state : PlayerState) : PlayerHeap :=
  fun other => if other = player then state else heap other

def PlayerHeap.view (heap : PlayerHeap) : EntityView PlayerRef where
  getID := fun player => (heap player).ID
  getPosition := fun player => (heap player).position
  getTypeID := fun _ => 0

structure PlayerStateManager where
  heap : PlayerHeap
  next : PlayerRef
  players : GoMap String PlayerRef
  subscribers : GoMap String (List String)
  aoiManager : AOIManager PlayerRef

def origin : Position := ⟨0, 0, 0⟩

def newPlayerState (now : Int) (playerID : String) : PlayerState where
  ID := playerID
  position := origin
  velocity := ⟨0, 0, 0⟩
  rotation := 0
  lastSyncTime := now
  lastUpdateTime := now
  updateMask := 0

def newPlayerStateManager : PlayerStateManager where
  heap := fun _ => newPlayerState 0 ""
  next := 0
  players := ∅
  subscribers := ∅
  aoiManager := newAOIManager PlayerRef 0 1000 0 1000 20 (by decide)

def updatePosition : UInt32 := 1

def updateVelocity : UInt32 := 2

def updateRotation : UInt32 := 4

namespace PlayerStateManager

-- The result of AddEntity, RemoveEntity and UpdateEntity is only logged.
def registerPlayer (now : Int) (playerID : String) (m : PlayerStateManager) : PlayerRef × PlayerStateManager :=
  match m.players.lookup playerID with
  | some player => (player, m)
  | none =>
    let player := m.next
    let heap := m.heap.write player (newPlayerState now playerID)
    (player, {
      heap := heap
      next := player + 1
      players := m.players.insert playerID player
      subscribers := m.subscribers.insert playerID []
      aoiManager := (m.aoiManager.addEntity heap.view player).2 })

def forget (playerID : String) (m : PlayerStateManager) : PlayerStateManager :=
  { m with
    players := m.players.erase playerID
    subscribers := (m.subscribers.erase playerID).mapValues fun subs => subs.filter fun subID => subID ≠ playerID }

def unregisterPlayer (playerID : String) (m : PlayerStateManager) : PlayerStateManager :=
  match m.players.lookup playerID with
  | none => m
  | some player => forget playerID { m with aoiManager := (m.aoiManager.removeEntity m.heap.view player).2 }

def getPlayer (playerID : String) (m : PlayerStateManager) : Except String PlayerRef :=
  match m.players.lookup playerID with
  | none => .error ("player not found: " ++ playerID)
  | some player => .ok player

def storeUpdate (player : PlayerRef) (change : PlayerState → PlayerState) (now : Int) (mask : UInt32)
    (m : PlayerStateManager) : PlayerStateManager :=
  { m with
    heap := m.heap.write player
      { change (m.heap player) with
        lastUpdateTime := now
        updateMask := (m.heap player).updateMask ||| mask } }

def storePosition (player : PlayerRef) (position : Position) (now : Int) : PlayerStateManager → PlayerStateManager :=
  storeUpdate player (fun state => { state with position := position }) now updatePosition

-- notifySubscribers changes nothing here and always returns nil.
def updatePlayerPosition (now : Int) (playerID : String) (position : Position) (m : PlayerStateManager) :
    Except String Unit × PlayerStateManager :=
  match m.getPlayer playerID with
  | .error err => (.error err, m)
  | .ok player =>
    let old := (m.heap player).position
    let moved := m.storePosition player position now
    (.ok (), { moved with aoiManager := (moved.aoiManager.updateEntity moved.heap.view player old.x old.z).2 })

def updatePlayerVelocity (now : Int) (playerID : String) (velocity : Position) (m : PlayerStateManager) :
    Except String Unit × PlayerStateManager :=
  match m.getPlayer playerID with
  | .error err => (.error err, m)
  | .ok player => (.ok (), m.storeUpdate player (fun state => { state with velocity := velocity }) now updateVelocity)

def updatePlayerRotation (now : Int) (playerID : String) (rotation : ℚ) (m : PlayerStateManager) :
    Except String Unit × PlayerStateManager :=
  match m.getPlayer playerID with
  | .error err => (.error err, m)
  | .ok player => (.ok (), m.storeUpdate player (fun state => { state with rotation := rotation }) now updateRotation)

def subscribeToPlayer (subscriberID targetID : String) (m : PlayerStateManager) : Except String Unit × PlayerStateManager :=
  match m.players.lookup targetID with
  | none => (.error ("target player not found: " ++ targetID), m)
  | some _ =>
    let subscribers := (m.subscribers.lookup targetID).getD []
    if subscriberID ∈ subscribers then (.ok (), m)
    else (.ok (), { m with subscribers := m.subscribers.insert targetID (subscribers ++ [subscriberID]) })

def unsubscribeFromPlayer (subscriberID targetID : String) (m : PlayerStateManager) : Except String Unit × PlayerStateManager :=
  match m.subscribers.lookup targetID with
  | none => (.error ("target player not found: " ++ targetID), m)
  | some subscribers =>
    (.ok (), { m with subscribers := m.subscribers.insert targetID (subscribers.filter fun id => id ≠ subscriberID) })

end PlayerStateManager

inductive Command where
  | register (now : Int) (playerID : String)
  | move (now : Int) (playerID : String) (position : Position)
  | unregister (playerID : String)

def execute (m : PlayerStateManager) : Command → PlayerStateManager
  | .register now playerID => (m.registerPlayer now playerID).2
  | .move now playerID position => (m.updatePlayerPosition now playerID position).2
  | .unregister playerID => m.unregisterPlayer playerID

end MmoServer.Sync
