import MmoServer.Lib.Replies
import MmoServer.Sync.Follow
import MmoServer.Sync.SyncService

set_option autoImplicit false

-- What the services are for: a world of players that see the others around them.
namespace MmoServer.Sync

open Aoi

structure Body where
  position : Position
  velocity : Position
  rotation : ℚ
deriving DecidableEq, Repr

abbrev World : Type := String → Option Body

namespace World

variable (w : World)

def join (id : String) : World := fun other => if other = id ∧ w id = none then some ⟨origin, ⟨0, 0, 0⟩, 0⟩ else w other

def leave (id : String) : World := fun other => if other = id then none else w other

def change (id : String) (change : Body → Body) : World := fun other => if other = id then (w id).map change else w other

def sees (id : String) : Set EntityPosition :=
  { entity | ∃ self body, w id = some self ∧ w entity.entityId = some body ∧ entity.entityId ≠ id ∧
      AOIManager.distanceSquared body.position self.position.x self.position.y self.position.z ≤ 100 * 100 ∧
      entity = ⟨entity.entityId, "player", body.position, body.rotation, body.velocity⟩ }

def Inside (at_ : Position) : Prop := newPlayerStateManager.aoiManager.InScene at_

def Within : Prop := ∀ id body, w id = some body → Inside body.position

noncomputable def population : Nat := Set.ncard { id | w id ≠ none }

end World

section Calls

inductive ServiceCall where
  | register (now : Int) (playerID : String)
  | unregister (playerID : String)
  | syncPosition (order : Shuffle PlayerRef) (now : Readings) (req : PositionSyncRequest)
  | broadcastMessage (now : Readings) (req : ChatRequest)
  | broadcastToNearby (order : Shuffle PlayerRef) (now : Readings) (req : ChatRequest)

inductive ServiceReply where
  | done
  | position (outcome : Outcome PositionSyncResponse)
  | chat (outcome : Outcome ChatResponse)

def handle (aoiText : AoiError → String) (m : PlayerStateManager) : ServiceCall → ServiceReply × PlayerStateManager
  | .register now playerID => (.done, (m.registerPlayer now playerID).2)
  | .unregister playerID => (.done, m.unregisterPlayer playerID)
  | .syncPosition order now req => ((.position (m.syncPosition order now req).1), (m.syncPosition order now req).2)
  | .broadcastMessage now req => (.chat (m.broadcastMessage now req), m)
  | .broadcastToNearby order now req => (.chat (m.broadcastToNearby aoiText order now req), m)

-- The world's answer to the same calls.
inductive WorldAnswer where
  | done
  | unknown
  | nearby (others : Set EntityPosition)
  | reached (count : Nat)

def PositionSyncRequest.moves (req : PositionSyncRequest) (body : Body) : Body where
  position := req.position.getD body.position
  velocity := req.velocity.getD body.velocity
  rotation := req.rotation

noncomputable def World.answer (w : World) : ServiceCall → WorldAnswer × World
  | .register _ playerID => (.done, w.join playerID)
  | .unregister playerID => (.done, w.leave playerID)
  | .syncPosition _ _ req =>
    let after := w.change req.entityId req.moves
    (if w req.entityId = none then .unknown else .nearby (after.sees req.entityId), after)
  | .broadcastMessage _ _ => (.reached w.population, w)
  | .broadcastToNearby _ _ req => (if w req.senderId = none then .unknown else .reached (w.sees req.senderId).ncard, w)

-- A request has a header and a position in the scene of the manager.
def ServiceCall.Sound : ServiceCall → Prop
  | .register _ _ | .unregister _ => True
  | .syncPosition _ _ req => req.header ≠ none ∧ ∃ at_, req.position = some at_ ∧ World.Inside at_
  | .broadcastMessage _ req | .broadcastToNearby _ _ req => req.header ≠ none

def Agrees : ServiceCall → ServiceReply → WorldAnswer → Prop
  | .register _ _, .done, .done => True
  | .unregister _, .done, .done => True
  | .syncPosition _ now req, .position outcome, .unknown =>
    ∃ header, req.header = some header ∧ outcome = .answered
      ⟨⟨positionSyncResponse, now.second, header.sessionId, header.version, 1, "player not found: " ++ req.entityId⟩, false, []⟩
      (some (.manager ("player not found: " ++ req.entityId)))
  | .syncPosition _ _ req, .position outcome, .nearby others =>
    ∃ header entities, req.header = some header ∧ entities.Nodup ∧ (∀ entity, entity ∈ entities ↔ entity ∈ others) ∧
      outcome = .answered
        ⟨⟨positionSyncResponse, req.timestamp + 50, header.sessionId, header.version, 0, "Success"⟩, true, entities⟩ none
  | .broadcastMessage now req, .chat outcome, .reached count =>
    outcome = PlayerStateManager.delivered now req.header ("Message broadcast to " ++ toString count ++ " players")
  | .broadcastToNearby _ now req, .chat outcome, .unknown =>
    outcome = PlayerStateManager.undelivered now req.header ("玩家不存在: " ++ req.senderId)
      (.manager ("player not found: " ++ req.senderId))
  | .broadcastToNearby _ now req, .chat outcome, .reached count =>
    outcome = PlayerStateManager.delivered now req.header ("Message broadcast to " ++ toString count ++ " nearby players")
  | _, _, _ => False

end Calls

end MmoServer.Sync
