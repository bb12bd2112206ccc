import MmoServer.Aoi.Calls
import MmoServer.Aoi.DistanceQuery

set_option autoImplicit false

namespace MmoServer.Aoi.AOIManager

variable {E : Type} (view : EntityView E)

def isPlayer (entity : E) : Bool := view.getTypeID entity = 0

def players (m : AOIManager E) (grid : GridPos) : Nat := (m.grids grid).entities.count (isPlayer view)

def PlayersCounted (m : AOIManager E) : Prop := ∀ grid, (m.grids grid).playerCount = m.players view grid

def excess (m : AOIManager E) (grid : GridPos) : Int := (m.grids grid).playerCount - m.players view grid

theorem players_counted_iff (m : AOIManager E) : m.PlayersCounted view ↔ ∀ grid, m.excess view grid = 0 :=
  forall_congr' fun _ => sub_eq_zero.symm

def replaced (m : AOIManager E) (grid : GridPos) (entity : E) : Int :=
  (m.stored grid (view.getID entity)).elim 0 fun held => if isPlayer view held then 1 else 0

-- What is removed is counted by the type of the argument, not by its own.
def misjudged (m : AOIManager E) (grid : GridPos) (entity : E) : Int :=
  (m.stored grid (view.getID entity)).elim 0 fun held =>
    (if isPlayer view held then 1 else 0) - if isPlayer view entity then 1 else 0

theorem excess_enter (grid place : GridPos) (entity : E) (m : AOIManager E) :
    (m.enter view grid entity).excess view place =
      m.excess view place + if place = grid then m.replaced view grid entity else 0 := by
  by_cases here : place = grid
  · subst here
    have before := AList.count_erase (isPlayer view) (m.grids place).entities (view.getID entity)
    have after := AList.count_insert (isPlayer view) (m.grids place).entities (view.getID entity) entity
    have same : (view.getTypeID entity = 0) = (isPlayer view entity = true) := by simp [isPlayer]
    simp only [excess, players, enter, change, if_true, replaced, stored, after, before, same]
    cases (m.grids place).entities.lookup (view.getID entity) with
    | none => simp
    | some held =>
      simp only [Option.any_some, Option.elim_some]
      split <;> split <;> push_cast <;> omega
  · simp [excess, players, enter, change, here]

theorem excess_leave (grid place : GridPos) (entity : E) (m : AOIManager E) :
    (m.leave view grid entity).excess view place =
      m.excess view place + if place = grid then m.misjudged view grid entity else 0 := by
  cases found : (m.grids grid).entities.lookup (view.getID entity) with
  | none => simp [leave, found, misjudged, stored]
  | some held =>
    by_cases here : place = grid
    · subst here
      have before := AList.count_erase (isPlayer view) (m.grids place).entities (view.getID entity)
      have same : (view.getTypeID entity = 0) = (isPlayer view entity = true) := by simp [isPlayer]
      simp only [excess, players, leave, found, change, if_true, misjudged, stored, before, Option.elim_some, Option.any_some, same]
      split <;> split <;> push_cast <;> omega
    · simp [excess, players, leave, found, change, here]

theorem replaced_none_iff (m : AOIManager E) (grid : GridPos) (entity : E) :
    m.replaced view grid entity = 0 ↔ ∀ held ∈ m.stored grid (view.getID entity), view.getTypeID held ≠ 0 := by
  rw [replaced]
  cases m.stored grid (view.getID entity) with
  | none => simp
  | some held => simp [isPlayer]

theorem misjudged_none_iff (m : AOIManager E) (grid : GridPos) (entity : E) :
    m.misjudged view grid entity = 0 ↔
      ∀ held ∈ m.stored grid (view.getID entity), (view.getTypeID held = 0 ↔ view.getTypeID entity = 0) := by
  rw [misjudged]
  cases m.stored grid (view.getID entity) with
  | none => simp
  | some held => by_cases first : view.getTypeID held = 0 <;> by_cases second : view.getTypeID entity = 0 <;> simp [isPlayer, first, second]

section Step

variable (m : AOIManager E)

-- The condition on a call: what it replaces is no player, and what it removes is
-- a player exactly when its argument is.
def Agrees : Call E → Prop
  | .addEntity entity at_ =>
    m.HasGrid at_ → ∀ held ∈ m.stored (m.cell at_) (view.getID entity), view.getTypeID held ≠ 0
  | .removeEntity entity at_ =>
    m.HasGrid at_ → ∀ held ∈ m.stored (m.cell at_) (view.getID entity), (view.getTypeID held = 0 ↔ view.getTypeID entity = 0)
  | .updateEntity entity at_ oldX oldZ =>
    m.HasGrid ⟨oldX, 0, oldZ⟩ → m.HasGrid at_ → m.cell ⟨oldX, 0, oldZ⟩ ≠ m.cell at_ →
      (∀ held ∈ m.stored (m.cell ⟨oldX, 0, oldZ⟩) (view.getID entity), (view.getTypeID held = 0 ↔ view.getTypeID entity = 0)) ∧
        ∀ held ∈ m.stored (m.cell at_) (view.getID entity), view.getTypeID held ≠ 0

instance decidableAgrees : ∀ call : Call E, Decidable (m.Agrees view call)
  | .addEntity .. | .removeEntity .. => inferInstanceAs (Decidable (_ → _))
  | .updateEntity .. => inferInstanceAs (Decidable (_ → _ → _ → _))

theorem agrees_outside (call : Call E) (outside : ¬ call.Inside m) : m.Agrees view call := by
  cases call with
  | addEntity entity at_ | removeEntity entity at_ => exact fun inside => absurd inside outside
  | updateEntity entity at_ oldX oldZ => exact fun before inside => absurd ⟨before, inside⟩ outside

theorem changed_at_iff (grid : GridPos) (amount : Int) : (∀ place, (if place = grid then amount else 0) = 0) ↔ amount = 0 :=
  ⟨fun none => by simpa using none grid, fun zero => by simp [zero]⟩

theorem moved_excess (old new place : GridPos) (entity : E) (apart : old ≠ new) :
    ((m.leave view old entity).enter view new entity).excess view place = m.excess view place +
      ((if place = old then m.misjudged view old entity else 0) + if place = new then m.replaced view new entity else 0) := by
  have same : (m.leave view old entity).replaced view new entity = m.replaced view new entity := by
    simp [replaced, Ne.symm apart]
  rw [excess_enter, excess_leave, same, add_assoc]

theorem changed_apart_iff (old new : GridPos) (first second : Int) (apart : old ≠ new) :
    (∀ place, ((if place = old then first else 0) + if place = new then second else 0) = 0) ↔ first = 0 ∧ second = 0 := by
  constructor
  · intro none
    have atOld := none old
    have atNew := none new
    simp [apart, Ne.symm apart] at atOld atNew
    exact ⟨atOld, atNew⟩
  · rintro ⟨rfl, rfl⟩ place
    simp

theorem run_counts_iff (call : Call E) (counted : m.PlayersCounted view) :
    (call.run view m).2.PlayersCounted view ↔ m.Agrees view call := by
  rcases ran : call.run view m with ⟨result, after⟩
  have effect := Call.run_effect view m after call result ran
  have exact_ := (players_counted_iff view m).mp counted
  cases effect with
  | refused call err outside => exact ⟨fun _ => agrees_outside view m call outside, fun _ => counted⟩
  | entered entity at_ inside =>
    simp only [players_counted_iff, excess_enter, exact_, zero_add, changed_at_iff, replaced_none_iff, Agrees, inside, true_imp_iff]
  | left entity at_ inside =>
    simp only [players_counted_iff, excess_leave, exact_, zero_add, changed_at_iff, misjudged_none_iff, Agrees, inside, true_imp_iff]
  | stayed entity at_ old before inside same =>
    exact ⟨fun _ _ _ apart => absurd same apart, fun _ => counted⟩
  | moved entity at_ old before inside apart =>
    simp only [players_counted_iff, moved_excess view m _ _ _ entity apart, exact_, zero_add, changed_apart_iff _ _ _ _ apart,
      misjudged_none_iff, replaced_none_iff, Agrees]
    exact ⟨fun both _ _ _ => both, fun all => all before inside apart⟩

end Step

def OwnIDs (m : AOIManager E) : Prop := ∀ grid id entity, m.stored grid id = some entity → view.getID entity = id

theorem enter_own_ids (grid : GridPos) (entity : E) (m : AOIManager E) (own : m.OwnIDs view) :
    (m.enter view grid entity).OwnIDs view := by
  intro place id held found
  rw [stored_enter] at found
  split at found
  · rename_i target
    cases found
    exact target.2.symm
  · exact own place id held found

theorem leave_own_ids (grid : GridPos) (entity : E) (m : AOIManager E) (own : m.OwnIDs view) :
    (m.leave view grid entity).OwnIDs view := by
  intro place id held found
  rw [stored_leave] at found
  split at found
  · cases found
  · exact own place id held found

theorem run_own_ids (m : AOIManager E) (call : Call E) (own : m.OwnIDs view) : (call.run view m).2.OwnIDs view := by
  rcases ran : call.run view m with ⟨result, after⟩
  have effect := Call.run_effect view m after call result ran
  cases effect with
  | refused | stayed => exact own
  | entered entity at_ => exact enter_own_ids view _ entity m own
  | left entity at_ => exact leave_own_ids view _ entity m own
  | moved entity at_ old => exact enter_own_ids view _ entity _ (leave_own_ids view _ entity m own)

section Query

variable (m : AOIManager E)

def InOneGrid : Prop := ∀ id first second, (m.stored first id).isSome → (m.stored second id).isSome → first = second

theorem surrounding_grids_nodup (center : GridPos) (range_ : Int) (grids : List GridPos)
    (ended : m.getSurroundingGridsByRange center range_ = some grids) : grids.Nodup := by
  rw [m.surrounding_eq center range_ grids ended]
  exact Cells.window_nodup GridPos.mk (fun _ _ _ _ same => GridPos.mk.inj same) _ _ _ _ _

theorem gathered_ids_nodup (order : Shuffle E) (own : m.OwnIDs view) (apart : m.InOneGrid) (grids : List GridPos)
    (distinct : grids.Nodup) :
    ((grids.flatMap fun grid => order.apply (m.grids grid).entities.values).map view.getID).Nodup := by
  rw [List.map_flatMap, List.nodup_flatMap]
  refine ⟨fun grid _ => ?_, distinct.pairwise_of_forall_ne fun first _ second _ different id inFirst inSecond => ?_⟩
  · rw [((order.perm _).map view.getID).nodup_iff, AList.map_values_key view.getID _ (own grid)]
    exact AList.keys_nodup _
  · have held : ∀ grid, id ∈ (order.apply (m.grids grid).entities.values).map view.getID → (m.stored grid id).isSome := by
      intro grid listed
      obtain ⟨entity, member, rfl⟩ := List.mem_map.mp listed
      rw [Shuffle.mem_apply, AList.mem_values] at member
      obtain ⟨key, found⟩ := member
      rw [own grid key entity found, stored, found, Option.isSome_some]
    exact different (apart id first second (held first inFirst) (held second inSecond))

theorem nearby_players_eq (order : Shuffle E) (own : m.OwnIDs view) (counted : m.PlayersCounted view) (apart : m.InOneGrid)
    (x z : ℚ) (range_ : Int) :
    m.getNearbyPlayers x z range_ =
      (m.getSurroundingEntities order view x z range_).map fun found => (found.countP (isPlayer view) : Int) := by
  simp only [getNearbyPlayers, getSurroundingEntities, getSurroundingGrids]
  cases m.getGrid x z with
  | error err => rfl
  | ok center =>
    cases around : m.getSurroundingGridsByRange center range_ with
    | none =>
      simp only [bind, Except.bind, around]
      rfl
    | some grids =>
      have distinct := gathered_ids_nodup view m order own apart _ (surrounding_grids_nodup m center range_ grids around)
      have gathered := AList.values_insert_perm view.getID _ distinct
      have sum : (grids.map fun grid => (m.grids grid).playerCount).sum =
          ((grids.flatMap fun grid => order.apply (m.grids grid).entities.values).countP (isPlayer view) : Int) := by
        rw [List.countP_flatMap, Nat.cast_list_sum, List.map_map]
        congr 1
        refine List.map_congr_left fun grid _ => ?_
        rw [counted grid, players, AList.count, Function.comp_apply, Function.comp_apply, (order.perm _).countP_eq]
      simp only [bind, Except.bind, around]
      refine congrArg Except.ok ?_
      rw [sum]
      beta_reduce
      rw [(order.perm _).countP_eq, gathered.countP_eq]

end Query

theorem player_counts_exact_iff (order : Shuffle E) (minX maxX minZ maxZ : ℚ) (gridCount : Int) (counted : 0 < gridCount)
    (calls : List (Call E)) :
    ((∀ m ∈ Runs.visited (fun m call => (Call.run view m call).2) (newAOIManager E minX maxX minZ maxZ gridCount counted) calls,
        m.PlayersCounted view) ↔
      Runs.Meets (fun m call => (Call.run view m call).2) (fun m call => m.Agrees view call)
        (newAOIManager E minX maxX minZ maxZ gridCount counted) calls) ∧
    ∀ m ∈ Runs.visited (fun m call => (Call.run view m call).2) (newAOIManager E minX maxX minZ maxZ gridCount counted) calls,
      m.PlayersCounted view → m.InOneGrid → ∀ x z range_,
        m.getNearbyPlayers x z range_ =
          (m.getSurroundingEntities order view x z range_).map fun found => (found.countP (isPlayer view) : Int) := by
  have own : (newAOIManager E minX maxX minZ maxZ gridCount counted).OwnIDs view := fun grid id entity found => by simp at found
  refine ⟨?_, fun m seen right apart x z range_ => ?_⟩
  · exact Runs.visited_iff_meets _ (fun m => m.OwnIDs view) (fun m => m.PlayersCounted view) (fun m call => m.Agrees view call)
      (run_own_ids view) (fun m call _ right => run_counts_iff view m call right) _ calls own fun grid => rfl
  · have kept := Runs.visited_invariant (fun m call => (Call.run view m call).2) (fun m => m.OwnIDs view) (fun _ _ => True)
      (fun m call own _ => run_own_ids view m call own) _ calls own (Runs.meets_free _ _ _) m seen
    exact nearby_players_eq view m order kept right apart x z range_

theorem wander_counted :
    Runs.Meets (fun m call => (Call.run Tracked.pair m call).2) (fun m call => m.Agrees Tracked.pair call)
      (newAOIManager Bool 0 100 0 60 10 (by decide)) Tracked.wander ∧
    ∀ m ∈ Runs.visited (fun m call => (Call.run Tracked.pair m call).2) (newAOIManager Bool 0 100 0 60 10 (by decide)) Tracked.wander,
      m.PlayersCounted Tracked.pair := by
  have agreed : Runs.Meets (fun m call => (Call.run Tracked.pair m call).2) (fun m call => m.Agrees Tracked.pair call)
      (newAOIManager Bool 0 100 0 60 10 (by decide)) Tracked.wander := by decide +kernel
  exact ⟨agreed, (player_counts_exact_iff Tracked.pair Shuffle.listed 0 100 0 60 10 (by decide) Tracked.wander).1.mpr agreed⟩

theorem player_added_twice_counted_twice :
    ((Runs.visited (fun m call => (Call.run Tracked.pair m call).2) (newAOIManager Bool 0 100 0 60 10 (by decide))
      [.addEntity true ⟨3, 0, 4⟩, .addEntity true ⟨3, 0, 4⟩]).map fun m =>
        ((m.grids ⟨0, 0⟩).playerCount, m.players Tracked.pair ⟨0, 0⟩, (m.getNearbyPlayers 3 4 0).toOption,
          ((m.getSurroundingEntities Shuffle.listed Tracked.pair 3 4 0).map (List.countP (isPlayer Tracked.pair))).toOption)) =
      [(0, 0, some 0, some 0), (1, 1, some 1, some 1), (2, 1, some 2, some 1)] := by
  decide +kernel

end MmoServer.Aoi.AOIManager
