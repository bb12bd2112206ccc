import MmoServer.Sync.World

set_option autoImplicit false

namespace MmoServer.Sync

open Aoi

def body (state : PlayerState) : Body := ⟨state.position, state.velocity, state.rotation⟩

namespace PlayerStateManager

-- Registered players are in the scene and in its index, nobody else is, and the
-- world holds what was sent last.
structure Tracks (m : PlayerStateManager) (w : World) : Prop where
  consistent : m.Consistent
  follows : m.Follows
  absent : ∀ id, m.AbsentAt id
  within : w.Within
  world : ∀ id, w id = (m.players.lookup id).map fun player => body (m.heap player)

theorem tracks_new : newPlayerStateManager.Tracks fun _ => none where
  consistent := consistent_new
  follows := new_follows
  absent := new_absent
  within := by simp [World.Within]
  world := by simp [newPlayerStateManager]

section Refinement

variable {m : PlayerStateManager} {w : World} (tracks : m.Tracks w)

theorem within_join (within : w.Within) (id : String) : (w.join id).Within := by
  intro other body here
  rw [World.join] at here
  split at here
  · cases here
    exact consistent_new.origin_inside.1
  · exact within other body here

theorem within_leave (within : w.Within) (id : String) : (w.leave id).Within := by
  intro other body here
  rw [World.leave] at here
  split at here
  · cases here
  · exact within other body here

theorem within_change (within : w.Within) (id : String) (effect : Body → Body)
    (kept : ∀ body, World.Inside body.position → World.Inside (effect body).position) : (w.change id effect).Within := by
  intro other body here
  rw [World.change] at here
  split at here
  · obtain ⟨old, was, rfl⟩ := Option.map_eq_some_iff.mp here
    exact kept old (within id old was)
  · exact within other body here

theorem change_change (id : String) (first second : Body → Body) :
    (w.change id first).change id second = w.change id (second ∘ first) := by
  funext other
  simp only [World.change, if_true, Option.map_map]
  split <;> rfl

include tracks

variable (now : Int) (order : Shuffle PlayerRef) (id : String) (player : PlayerRef)

theorem Tracks.none_iff : w id = none ↔ m.players.lookup id = none := by
  rw [tracks.world, Option.map_eq_none_iff]

theorem Tracks.present (found : m.players.lookup id = some player) : w id ≠ none := by
  rw [tracks.world, found]
  exact Option.some_ne_none _

theorem Tracks.inside (found : m.players.lookup id = some player) : m.aoiManager.HasGrid (m.position player) := by
  have inside : newPlayerStateManager.aoiManager.InScene (m.position player) :=
    tracks.within id (body (m.heap player)) (by rw [tracks.world, found]; rfl)
  have far : (m.position player).z < 1000 := inside.2.2.2
  have width : newPlayerStateManager.aoiManager.gridWidth = 50 := by decide +kernel
  rw [tracks.consistent.scene, AOIManager.has_grid_iff _ _ (by decide) inside, width, div_lt_iff₀ (by decide)]
  exact (sub_le_self _ (le_refl (0 : ℚ))).trans_lt (far.trans (by decide +kernel))

theorem Tracks.apart (id other : String) (player one : PlayerRef) (found : m.players.lookup id = some player)
    (at_ : m.players.lookup other = some one) (different : other ≠ id) : one ≠ player := by
  rintro rfl
  exact different (tracks.consistent.distinct at_ found)

theorem Tracks.stored_iff (grid : GridPos) (id : String) (player : PlayerRef) :
    m.stored grid id = some player ↔ m.players.lookup id = some player ∧ grid = m.aoiManager.cell (m.position player) := by
  cases found : m.players.lookup id with
  | none => simp [tracks.absent id found grid]
  | some own =>
    have home := m.aoiManager.get_grid_inside _ (tracks.inside id own found)
    rw [tracks.follows id own _ found home grid]
    split
    next here =>
      simp only [Option.some_inj]
      constructor
      · rintro rfl
        exact ⟨rfl, here⟩
      · exact fun same => same.1
    next elsewhere =>
      simp only [Option.some_inj, reduceCtorEq, false_iff, not_and]
      rintro rfl here
      exact elsewhere here

theorem Tracks.indexed_iff : m.aoiManager.Indexed player ↔ ∃ id, m.players.lookup id = some player := by
  constructor
  · rintro ⟨grid, id, held⟩
    exact ⟨id, ((tracks.stored_iff grid id player).mp held).1⟩
  · rintro ⟨id, found⟩
    exact ⟨_, id, (tracks.stored_iff _ id player).mpr ⟨found, rfl⟩⟩

-- The query finds the players within the view distance, each of them once.
theorem Tracks.nearby_exact (self : PlayerRef) (inside : m.aoiManager.HasGrid (m.position self)) :
    ∃ found, m.nearby order self = .ok found ∧ found.Nodup ∧
      ∀ player, player ∈ found ↔ (∃ id, m.players.lookup id = some player) ∧
        AOIManager.distanceSquared (m.position player) (m.position self).x (m.position self).y (m.position self).z ≤ 100 * 100 := by
  have placed : m.aoiManager.Placed m.heap.view := by
    refine ⟨fun grid id player held => (tracks.consistent.grids grid id player held).2, fun grid id player held => ?_⟩
    obtain ⟨found, rfl⟩ := (tracks.stored_iff grid id player).mp held
    exact m.aoiManager.get_grid_inside _ (tracks.inside id player found)
  have unique : m.aoiManager.Unique m.heap.view := by
    intro first second indexed other same
    obtain ⟨id, found⟩ := (tracks.indexed_iff first).mp indexed
    obtain ⟨key, also⟩ := (tracks.indexed_iff second).mp other
    have names : id = key := by
      rw [← (tracks.consistent.players id first found).2, ← (tracks.consistent.players key second also).2]
      exact same
    rw [names, also] at found
    exact (Option.some_inj.mp found).symm
  have fits : m.aoiManager.Searches (m.position self) viewDistance := by
    obtain ⟨⟨_, highX⟩, _, highY⟩ := m.aoiManager.cell_on_board _ inside.1
    have count : m.aoiManager.gridCount = 20 := by rw [tracks.consistent.scene]; rfl
    have reach : ⌈viewDistance / m.aoiManager.gridWidth⌉ = 2 := by rw [tracks.consistent.scene]; decide +kernel
    rw [AOIManager.Searches, reach]
    omega
  obtain ⟨found, answered, finds⟩ := m.aoiManager.search_finds (m.position self) viewDistance order _
    (by rw [tracks.consistent.scene]; decide) placed (by decide +kernel) unique inside fits
  refine ⟨found, answered, finds.once, fun player => ?_⟩
  rw [finds.near, tracks.indexed_iff]
  rfl

theorem Tracks.executed (command : Command) (keeps : m.KeepsIndex command) (leaves : m.LeavesNoGhost command) (after : World)
    (within : after.Within)
    (world : ∀ id, after id = ((execute m command).players.lookup id).map fun player => body ((execute m command).heap player)) :
    (execute m command).Tracks after where
  consistent := execute_consistent m command tracks.consistent
  follows := (follows_execute_iff m command tracks.consistent tracks.follows).mpr keeps
  absent := (absent_execute_iff m command tracks.consistent tracks.absent).mpr leaves
  within := within
  world := world

theorem Tracks.register : (m.registerPlayer now id).2.Tracks (w.join id) := by
  cases found : m.players.lookup id with
  | some player =>
    have known : w.join id = w := by
      funext other
      rw [World.join, if_neg fun both => tracks.present id player found both.2]
    rw [register_again now id player m found, known]
    exact tracks
  | none =>
    have change := register_effect now id m tracks.consistent found
    have missing : w id = none := (tracks.none_iff id).mpr found
    have fresh : (m.registerPlayer now id).2.heap m.next = newPlayerState now id := by
      simp only [registerPlayer, found, write_read, if_true]
    refine tracks.executed (.register now id) (fun missing grid _ => tracks.absent id missing grid) trivial _
      (within_join tracks.within id) fun other => ?_
    rw [World.join, execute, change.players]
    by_cases same : other = id
    · rw [if_pos ⟨same, missing⟩, if_pos same, Option.map_some, fresh]
      rfl
    · rw [if_neg fun both => same both.1, if_neg same, tracks.world other]
      exact Option.map_congr fun player at_ => by rw [change.heap player (tracks.consistent.players other player at_).1.ne]

theorem Tracks.unregister : (m.unregisterPlayer id).Tracks (w.leave id) := by
  cases found : m.players.lookup id with
  | none =>
    have gone : w.leave id = w := by
      funext other
      rw [World.leave]
      split
      next same => rw [same, (tracks.none_iff id).mpr found]
      next => rfl
    rw [gone, unregisterPlayer, found]
    exact tracks
  | some player =>
    have change := unregister_effect id player m tracks.consistent found
    have leaves : m.LeavesNoGhost (.unregister id) := by
      intro own at_ grid held
      cases found.symm.trans at_
      obtain ⟨kept, same⟩ := Option.ne_none_iff_exists'.mp held
      have home := (tracks.stored_iff grid id kept).mp same
      cases found.symm.trans home.1
      exact ⟨tracks.inside id player found, home.2⟩
    refine tracks.executed (.unregister id) trivial leaves _ (within_leave tracks.within id) fun other => ?_
    rw [World.leave, execute, change.players, change.heap]
    split
    · rfl
    · exact tracks.world other

theorem Tracks.move (target : Position) (found : m.players.lookup id = some player) (inside : World.Inside target) :
    (m.updatePlayerPosition now id target).2.Tracks (w.change id fun body => { body with position := target }) := by
  have change := move_effect now id player target m tracks.consistent found
  have keeps : m.KeepsIndex (.move now id target) := fun own at_ outside => absurd (tracks.inside id own at_) outside
  have stored : (m.updatePlayerPosition now id target).2.heap player =
      { m.heap player with position := target, lastUpdateTime := now, updateMask := (m.heap player).updateMask ||| updatePosition } := by
    simp only [updatePlayerPosition, getPlayer, found, storePosition, storeUpdate, write_read, if_true]
  refine tracks.executed (.move now id target) keeps trivial _ (within_change tracks.within id _ fun _ _ => inside)
    fun other => ?_
  rw [World.change, execute, change.players]
  by_cases same : other = id
  · rw [if_pos same, same, tracks.world id, found, Option.map_some, Option.map_some, Option.map_some, stored]
    rfl
  · rw [if_neg same, tracks.world other]
    exact Option.map_congr fun one at_ => by rw [change.heap one (tracks.apart id other player one found at_ same)]

-- An update that leaves the player where it is.
theorem Tracks.store (found : m.players.lookup id = some player) (change : PlayerState → PlayerState) (mask : UInt32)
    (effect : Body → Body) (same : ∀ state, (change state).ID = state.ID ∧ (change state).position = state.position)
    (kept : ∀ body, World.Inside body.position → World.Inside (effect body).position)
    (shows : ∀ state, body (change state) = effect (body state)) :
    (m.storeUpdate player change now mask).Tracks (w.change id effect) := by
  have identity (one : PlayerRef) : ((m.storeUpdate player change now mask).heap one).ID = (m.heap one).ID := by
    simp only [storeUpdate, write_read]
    split
    next here => rw [(same _).1, here]
    next => rfl
  have stays (one : PlayerRef) : (m.storeUpdate player change now mask).position one = m.position one := by
    simp only [position, storeUpdate, write_read]
    split
    next here => rw [(same _).2, here]
    next => rfl
  have untouched (other : String) : SameFor m (m.storeUpdate player change now mask) other :=
    ⟨rfl, fun one _ => stays one, fun _ => rfl, rfl⟩
  refine ⟨⟨tracks.consistent.scene, fun other one at_ => ?_, fun grid other one held => ?_⟩, fun other => (untouched other).follows (tracks.follows other),
    fun other => (untouched other).absent (tracks.absent other), within_change tracks.within id effect kept, fun other => ?_⟩
  · rw [identity]
    exact tracks.consistent.players other one at_
  · rw [identity]
    exact tracks.consistent.grids grid other one held
  · rw [World.change]
    by_cases here : other = id
    · rw [if_pos here, here, tracks.world id]
      simp only [storeUpdate, found, Option.map_some, write_read, if_true]
      exact congrArg some (shows _).symm
    · rw [if_neg here, tracks.world other]
      refine Option.map_congr fun one at_ => ?_
      simp only [storeUpdate, write_read, if_neg (tracks.apart id other player one found at_ here)]

-- The entities around a player are what it sees of the world.
theorem Tracks.nearby_sees (self : PlayerRef) (found : m.players.lookup id = some self) :
    ∃ players, m.nearby order self = .ok players ∧
      ((players.filter fun entity => (m.heap entity).ID ≠ id).map m.entityPosition).Nodup ∧
      ∀ entity, entity ∈ (players.filter fun entity => (m.heap entity).ID ≠ id).map m.entityPosition ↔ entity ∈ w.sees id := by
  obtain ⟨players, answered, distinct, exact_⟩ := tracks.nearby_exact order self (tracks.inside id self found)
  refine ⟨players, answered, ?_, ?_⟩
  · refine List.Nodup.map_on ?_ (distinct.filter _)
    intro first one second two same
    obtain ⟨⟨firstID, atFirst⟩, _⟩ := (exact_ first).mp (List.mem_of_mem_filter one)
    obtain ⟨⟨secondID, atSecond⟩, _⟩ := (exact_ second).mp (List.mem_of_mem_filter two)
    have names : (m.heap first).ID = (m.heap second).ID := congrArg EntityPosition.entityId same
    rw [(tracks.consistent.players _ _ atFirst).2, (tracks.consistent.players _ _ atSecond).2] at names
    rw [names, atSecond] at atFirst
    exact (Option.some_inj.mp atFirst).symm
  · intro entity
    simp only [List.mem_map, List.mem_filter, exact_, decide_eq_true_eq, World.sees, Set.mem_ofPred_eq]
    constructor
    · rintro ⟨player, ⟨⟨⟨other, at_⟩, near⟩, apart⟩, rfl⟩
      have own := (tracks.consistent.players other player at_).2
      refine ⟨body (m.heap self), body (m.heap player), by rw [tracks.world, found]; rfl, ?_, apart, near, rfl⟩
      change w (m.heap player).ID = _
      rw [own, tracks.world, at_]
      rfl
    · rintro ⟨me, it, mine, its, apart, near, same⟩
      rw [tracks.world, found] at mine
      rw [tracks.world] at its
      obtain ⟨player, at_, rfl⟩ := Option.map_eq_some_iff.mp its
      cases mine
      have own := (tracks.consistent.players _ player at_).2
      refine ⟨player, ⟨⟨⟨_, at_⟩, near⟩, by rw [own]; exact apart⟩, ?_⟩
      rw [same, entityPosition, own]
      rfl

theorem Tracks.size_population : m.players.size = w.population := by
  have names : { id | w id ≠ none } = (m.players.keys.toFinset : Set String) := by
    ext id
    rw [Set.mem_ofPred_eq, ne_eq, tracks.none_iff, Finset.mem_coe, List.mem_toFinset, ← AList.mem_keys,
      ← AList.lookup_isSome, Option.isSome_iff_ne_none]
  rw [World.population, names, Set.ncard_coe_finset, List.toFinset_card_of_nodup m.players.keys_nodup, AList.keys, List.keys,
    List.length_map]
  rfl

-- The three updates of SyncPosition are one change of the world.
theorem Tracks.sync_updates (now : Readings) (req : PositionSyncRequest) (player : PlayerRef)
    (found : m.players.lookup req.entityId = some player) (target : Position) (given : req.position = some target)
    (inside : World.Inside target) :
    let turned := (m.updatePlayerPosition now.first req.entityId target).2.updateGivenVelocity now.second req.entityId req.velocity
    (turned.updatePlayerRotation now.third req.entityId req.rotation).2.players.lookup req.entityId = some player ∧
      (turned.updatePlayerRotation now.third req.entityId req.rotation).2.Tracks (w.change req.entityId req.moves) := by
  intro turned
  have moved := tracks.move now.first req.entityId player target found inside
  have still : (m.updatePlayerPosition now.first req.entityId target).2.players.lookup req.entityId = some player := by
    rw [(move_effect now.first req.entityId player target m tracks.consistent found).players, found]
  have sped : turned.players.lookup req.entityId = some player ∧ turned.Tracks
      (w.change req.entityId fun body => { position := target, velocity := req.velocity.getD body.velocity, rotation := body.rotation }) := by
    cases velocity : req.velocity with
    | none =>
      simp only [turned, velocity]
      exact ⟨still, moved⟩
    | some speed =>
      have after := moved.store now.second req.entityId player still (fun state => { state with velocity := speed }) updateVelocity
        (fun body => { body with velocity := speed }) (fun _ => ⟨rfl, rfl⟩) (fun _ inside => inside) fun _ => rfl
      rw [change_change] at after
      simp only [turned, velocity, updateGivenVelocity, updatePlayerVelocity, getPlayer, still]
      exact ⟨still, after⟩
  have rotated := sped.2.store now.third req.entityId player sped.1 (fun state => { state with rotation := req.rotation })
    updateRotation (fun body => { body with rotation := req.rotation }) (fun _ => ⟨rfl, rfl⟩) (fun _ inside => inside) fun _ => rfl
  rw [change_change] at rotated
  simp only [updatePlayerRotation, getPlayer, sped.1]
  refine ⟨sped.1, ?_⟩
  convert rotated using 2
  funext body
  simp [PositionSyncRequest.moves, given]

theorem Tracks.sync_agrees (now : Readings) (req : PositionSyncRequest) (sound : (ServiceCall.syncPosition order now req).Sound) :
    Agrees (.syncPosition order now req) (.position (m.syncPosition order now req).1) (w.answer (.syncPosition order now req)).1 ∧
      (m.syncPosition order now req).2.Tracks (w.answer (.syncPosition order now req)).2 := by
  obtain ⟨headed, target, given, inside⟩ := sound
  obtain ⟨header, headed⟩ := Option.ne_none_iff_exists'.mp headed
  cases found : m.players.lookup req.entityId with
  | none =>
    have missing : w req.entityId = none := (tracks.none_iff _).mpr found
    have same : w.change req.entityId req.moves = w := by
      funext other
      rw [World.change, missing]
      split
      next here => rw [here, missing, Option.map_none]
      next => rfl
    simp only [World.answer, missing, if_true, same, syncPosition, given, updatePlayerPosition, getPlayer, found, headed]
    exact ⟨⟨header, headed, rfl⟩, tracks⟩
  | some player =>
    have accepted : m.updatePlayerPosition now.first req.entityId target =
        (.ok (), (m.updatePlayerPosition now.first req.entityId target).2) := by
      simp only [updatePlayerPosition, getPlayer, found]
    obtain ⟨still, after⟩ := tracks.sync_updates now req player found target given inside
    obtain ⟨players, answered, distinct, exact_⟩ := after.nearby_sees order req.entityId player still
    simp only [World.answer, if_neg (tracks.present _ player found), syncPosition, given]
    rw [accepted]
    simp only [headed, getNearbyEntities, getPlayer, still, Except.mapError, answered, bind, Except.bind, pure, Except.pure]
    exact ⟨⟨header, _, headed, distinct, exact_, rfl⟩, after⟩

theorem Tracks.nearby_agrees (aoiText : AoiError → String) (order : Shuffle PlayerRef) (now : Readings) (req : ChatRequest) :
    Agrees (.broadcastToNearby order now req) (.chat (m.broadcastToNearby aoiText order now req))
      (w.answer (.broadcastToNearby order now req)).1 := by
  cases found : m.players.lookup req.senderId with
  | none =>
    simp only [World.answer, (tracks.none_iff _).mpr found, if_true, broadcastToNearby, getPlayer, found]
    rfl
  | some player =>
    obtain ⟨players, answered, distinct, exact_⟩ := tracks.nearby_sees order req.senderId player found
    have counted : players.countP (fun entity => (m.heap entity).ID ≠ req.senderId ∧ m.heap.view.getTypeID entity = 0) =
        (w.sees req.senderId).ncard := by
      have listed : w.sees req.senderId =
          (((players.filter fun entity => (m.heap entity).ID ≠ req.senderId).map m.entityPosition).toFinset : Set EntityPosition) := by
        ext entity
        rw [← exact_ entity, Finset.mem_coe, List.mem_toFinset]
      rw [listed, Set.ncard_coe_finset, List.toFinset_card_of_nodup distinct, List.length_map, ← List.countP_eq_length_filter]
      exact List.countP_congr fun entity _ => by simp [PlayerHeap.view]
    simp only [World.answer, if_neg (tracks.present _ player found), broadcastToNearby, getPlayer, found, answered, counted]
    rfl

end Refinement

end PlayerStateManager

open PlayerStateManager in
theorem service_refines_world (aoiText : AoiError → String) (calls : List ServiceCall) (sound : ∀ call ∈ calls, call.Sound) :
    Replies.Agree (handle aoiText) World.answer Agrees newPlayerStateManager (fun _ => none) calls := by
  refine Replies.agree_run (handle aoiText) World.answer Agrees PlayerStateManager.Tracks ServiceCall.Sound ?_ calls sound _ _ tracks_new
  intro m w call tracks sound
  cases call with
  | register now playerID => exact ⟨trivial, tracks.register now playerID⟩
  | unregister playerID => exact ⟨trivial, tracks.unregister playerID⟩
  | syncPosition order now req => exact tracks.sync_agrees order now req sound
  | broadcastMessage now req =>
    refine ⟨?_, tracks⟩
    rw [handle, World.answer, Agrees, broadcastMessage, tracks.size_population]
  | broadcastToNearby order now req => exact ⟨tracks.nearby_agrees aoiText order now req, tracks⟩

def sessionHeader : MessageHeader := ⟨3001, 5, "s", 1, 0, ""⟩

-- Two players; one of them walks up to the edge of the other's view.
def approach : PositionSyncRequest := ⟨some sessionHeader, "a", some ⟨60, 0, 80⟩, none, 90, 7⟩

def meeting : List ServiceCall :=
  [.register 0 "a", .register 1 "b", .syncPosition Shuffle.listed ⟨2, 2, 2⟩ approach,
    .broadcastToNearby Shuffle.listed ⟨3, 3, 3⟩ ⟨some sessionHeader, "b"⟩]

theorem meeting_sound : ∀ call ∈ meeting, call.Sound := by
  have inside : newPlayerStateManager.aoiManager.InScene ⟨60, 0, 80⟩ := by decide +kernel
  simp [meeting, ServiceCall.Sound, approach, sessionHeader, World.Inside, inside]

theorem meeting_seen :
    (((newPlayerStateManager.registerPlayer 0 "a").2.registerPlayer 1 "b").2.syncPosition Shuffle.listed ⟨2, 2, 2⟩ approach).1 =
        .answered ⟨⟨3002, 57, "s", 1, 0, "Success"⟩, true, [⟨"b", "player", ⟨0, 0, 0⟩, 0, ⟨0, 0, 0⟩⟩]⟩ none ∧
      Replies.Agree (handle fun _ => "") World.answer Agrees newPlayerStateManager (fun _ => none) meeting :=
  ⟨by decide +kernel, service_refines_world (fun _ => "") meeting meeting_sound⟩

end MmoServer.Sync
