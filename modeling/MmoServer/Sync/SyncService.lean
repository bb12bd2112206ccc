import MmoServer.Sync.PlayerState

set_option autoImplicit false

-- The services on top of the PlayerStateManager. A nil pointer that is followed is a panic.
namespace MmoServer.Sync

open Aoi

structure MessageHeader where
  msgId : Int
  timestamp : Int
  sessionId : String
  version : Int
  resultCode : Int
  resultMsg : String
deriving DecidableEq, Repr

structure EntityPosition where
  entityId : String
  entityType : String
  position : Position
  rotation : ℚ
  velocity : Position
deriving DecidableEq, Repr

structure PositionSyncRequest where
  header : Option MessageHeader
  entityId : String
  position : Option Position
  velocity : Option Position
  rotation : ℚ
  timestamp : Int

structure PositionSyncResponse where
  header : MessageHeader
  success : Bool
  nearbyEntities : List EntityPosition
deriving DecidableEq, Repr

structure ChatRequest where
  header : Option MessageHeader
  senderId : String

structure ChatResponse where
  header : MessageHeader
  delivered : Bool
  messageId : Int := 0
  timestamp : Int := 0
deriving DecidableEq, Repr

def positionSyncResponse : Int := 3002

def chatResponse : Int := 4002

-- An error of the manager, or of the AOI.
inductive SyncError where
  | manager (text : String)
  | aoi (error : AoiError)
deriving DecidableEq, Repr

-- What a service method leaves behind: its response with its error, or a panic.
inductive Outcome (R : Type) where
  | answered (response : R) (error : Option SyncError)
  | panicked
deriving DecidableEq, Repr

-- The readings of the clock in one call, in the order they are made.
structure Readings where
  first : Int
  second : Int
  third : Int

namespace PlayerStateManager

variable (m : PlayerStateManager)

def viewDistance : ℚ := 100

def entityPosition (player : PlayerRef) : EntityPosition where
  entityId := (m.heap player).ID
  entityType := "player"
  position := (m.heap player).position
  rotation := (m.heap player).rotation
  velocity := (m.heap player).velocity

def nearby (order : Shuffle PlayerRef) (player : PlayerRef) : Except AoiError (List PlayerRef) :=
  let at_ := (m.heap player).position
  m.aoiManager.getEntitiesByDistance order m.heap.view at_.x at_.y at_.z viewDistance

-- Every entity of the manager is a PlayerState.
def getNearbyEntities (order : Shuffle PlayerRef) (playerID : String) : Except SyncError (List EntityPosition) := do
  let player ← (m.getPlayer playerID).mapError .manager
  let entities ← (m.nearby order player).mapError .aoi
  return (entities.filter fun entity => (m.heap entity).ID ≠ playerID).map m.entityPosition

def updateGivenVelocity (now : Int) (playerID : String) : Option Position → PlayerStateManager
  | none => m
  | some velocity => (m.updatePlayerVelocity now playerID velocity).2

def syncPosition (order : Shuffle PlayerRef) (now : Readings) (req : PositionSyncRequest) :
    Outcome PositionSyncResponse × PlayerStateManager :=
  match req.position with
  | none => (.panicked, m)
  | some position =>
    match m.updatePlayerPosition now.first req.entityId position with
    | (.error err, m) =>
      match req.header with
      | none => (.panicked, m)
      | some header =>
        (.answered { header := ⟨positionSyncResponse, now.second, header.sessionId, header.version, 1, err⟩
                     success := false
                     nearbyEntities := [] } (some (.manager err)), m)
    | (.ok (), m) =>
      let m := m.updateGivenVelocity now.second req.entityId req.velocity
      let m := (m.updatePlayerRotation now.third req.entityId req.rotation).2
      let nearbyEntities := match m.getNearbyEntities order req.entityId with
        | .ok entities => entities
        | .error _ => []
      match req.header with
      | none => (.panicked, m)
      | some header =>
        (.answered { header := ⟨positionSyncResponse, req.timestamp + 50, header.sessionId, header.version, 0, "Success"⟩
                     success := true
                     nearbyEntities } none, m)

-- How both broadcasts end, and how they fail.
def delivered (now : Readings) (header : Option MessageHeader) (message : String) : Outcome ChatResponse :=
  match header with
  | none => .panicked
  | some header =>
    .answered { header := ⟨chatResponse, now.third, header.sessionId, header.version, 0, message⟩
                delivered := true
                messageId := now.first
                timestamp := now.second } none

def undelivered (now : Readings) (header : Option MessageHeader) (message : String) (err : SyncError) : Outcome ChatResponse :=
  match header with
  | none => .panicked
  | some header =>
    .answered { header := ⟨chatResponse, now.first, header.sessionId, header.version, 1, message⟩
                delivered := false } (some err)

def broadcastMessage (now : Readings) (req : ChatRequest) : Outcome ChatResponse :=
  delivered now req.header ("Message broadcast to " ++ toString m.players.size ++ " players")

-- The text of an error of the AOI is a parameter: it prints floating-point numbers.
def broadcastToNearby (aoiText : AoiError → String) (order : Shuffle PlayerRef) (now : Readings) (req : ChatRequest) :
    Outcome ChatResponse :=
  match m.getPlayer req.senderId with
  | .error err => undelivered now req.header ("玩家不存在: " ++ req.senderId) (.manager err)
  | .ok player =>
    match m.nearby order player with
    | .error err => undelivered now req.header ("获取附近实体失败: " ++ aoiText err) (.aoi err)
    | .ok entities =>
      let nearbyPlayers := entities.countP fun entity =>
        (m.heap entity).ID ≠ req.senderId ∧ m.heap.view.getTypeID entity = 0
      delivered now req.header ("Message broadcast to " ++ toString nearbyPlayers ++ " nearby players")

end PlayerStateManager

end MmoServer.Sync
