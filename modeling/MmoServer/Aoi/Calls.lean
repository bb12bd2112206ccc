import MmoServer.Aoi.Placement
import MmoServer.Lib.Runs

set_option autoImplicit false

namespace MmoServer.Aoi

variable {E : Type}

inductive Call (E : Type) where
  | addEntity (entity : E) (at_ : Position)
  | removeEntity (entity : E) (at_ : Position)
  | updateEntity (entity : E) (at_ : Position) (oldX oldZ : ℚ)

def EntityView.atPosition (view : EntityView E) (at_ : Position) : EntityView E := { view with getPosition := fun _ => at_ }

namespace Call

variable (view : EntityView E)

def run (m : AOIManager E) : Call E → Except AoiError Unit × AOIManager E
  | .addEntity entity at_ => m.addEntity (view.atPosition at_) entity
  | .removeEntity entity at_ => m.removeEntity (view.atPosition at_) entity
  | .updateEntity entity at_ oldX oldZ => m.updateEntity (view.atPosition at_) entity oldX oldZ

def Inside (m : AOIManager E) : Call E → Prop
  | .addEntity _ at_ | .removeEntity _ at_ => m.HasGrid at_
  | .updateEntity _ at_ oldX oldZ => m.HasGrid ⟨oldX, 0, oldZ⟩ ∧ m.HasGrid at_

inductive Effect (m : AOIManager E) : Call E → Except AoiError Unit → AOIManager E → Prop where
  | refused (call : Call E) (err : AoiError) (outside : ¬ call.Inside m) : Effect m call (.error err) m
  | entered (entity : E) (at_ : Position) (inside : m.HasGrid at_) :
      Effect m (.addEntity entity at_) (.ok ()) (m.enter view (m.cell at_) entity)
  | left (entity : E) (at_ : Position) (inside : m.HasGrid at_) :
      Effect m (.removeEntity entity at_) (.ok ()) (m.leave view (m.cell at_) entity)
  | stayed (entity : E) (at_ old : Position) (before : m.HasGrid old) (inside : m.HasGrid at_) (same : m.cell old = m.cell at_) :
      Effect m (.updateEntity entity at_ old.x old.z) (.ok ()) m
  | moved (entity : E) (at_ old : Position) (before : m.HasGrid old) (inside : m.HasGrid at_) (apart : m.cell old ≠ m.cell at_) :
      Effect m (.updateEntity entity at_ old.x old.z) (.ok ()) ((m.leave view (m.cell old) entity).enter view (m.cell at_) entity)

theorem run_effect (m after : AOIManager E) (call : Call E) (result : Except AoiError Unit)
    (ran : call.run view m = (result, after)) : Effect view m call result after := by
  suffices effect : Effect view m call (call.run view m).1 (call.run view m).2 by
    rw [ran] at effect
    exact effect
  cases call with
  | addEntity entity at_ =>
    simp only [run, AOIManager.addEntity, EntityView.atPosition]
    by_cases inside : m.HasGrid at_
    · rw [m.get_grid_inside at_ inside]
      exact .entered entity at_ inside
    · rw [m.get_grid_outside at_ inside]
      exact .refused _ _ inside
  | removeEntity entity at_ =>
    simp only [run, AOIManager.removeEntity, EntityView.atPosition]
    by_cases inside : m.HasGrid at_
    · rw [m.get_grid_inside at_ inside]
      exact .left entity at_ inside
    · rw [m.get_grid_outside at_ inside]
      exact .refused _ _ inside
  | updateEntity entity at_ oldX oldZ =>
    simp only [run, AOIManager.updateEntity]
    by_cases both : m.HasGrid ⟨oldX, 0, oldZ⟩ ∧ m.HasGrid at_
    · have grids := AOIManager.grids_to_change_inside (view.atPosition at_) m entity ⟨oldX, 0, oldZ⟩ both.1 both.2
      rw [grids]
      by_cases same : m.cell ⟨oldX, 0, oldZ⟩ = m.cell at_
      · rw [EntityView.atPosition, if_pos same]
        exact .stayed entity at_ ⟨oldX, 0, oldZ⟩ both.1 both.2 same
      · rw [EntityView.atPosition, if_neg same]
        exact .moved entity at_ ⟨oldX, 0, oldZ⟩ both.1 both.2 same
    · obtain ⟨err, refused⟩ := AOIManager.grids_to_change_outside (view.atPosition at_) m entity ⟨oldX, 0, oldZ⟩ both
      rw [refused]
      exact .refused _ _ both

theorem run_refused (m after : AOIManager E) (call : Call E) (err : AoiError) (failed : call.run view m = (.error err, after)) :
    after = m := by
  cases run_effect view m after call _ failed
  rfl

end Call

-- A manager, the position of the last AddEntity or UpdateEntity of each ID that
-- succeeded, and whether the ID is indexed: AddEntity indexes it, RemoveEntity
-- ends that, and UpdateEntity indexes it again when it moves it to another grid.
structure Tracked (E : Type) where
  manager : AOIManager E
  last : String → Option Position := fun _ => none
  indexed : String → Bool := fun _ => false

namespace Tracked

variable (view : EntityView E)

def note (s : Tracked E) (after : AOIManager E) : Call E → Tracked E
  | .addEntity entity at_ =>
    ⟨after, Function.update s.last (view.getID entity) (some at_), Function.update s.indexed (view.getID entity) true⟩
  | .removeEntity entity _ => ⟨after, s.last, Function.update s.indexed (view.getID entity) false⟩
  | .updateEntity entity at_ oldX oldZ =>
    let changes := (s.manager.getGrid oldX oldZ).toOption != (s.manager.getGrid at_.x at_.z).toOption
    ⟨after, Function.update s.last (view.getID entity) (some at_),
      Function.update s.indexed (view.getID entity) (s.indexed (view.getID entity) || changes)⟩

def step (s : Tracked E) (call : Call E) : Tracked E :=
  match call.run view s.manager with
  | (.error _, after) => { s with manager := after }
  | (.ok (), after) => s.note view after call

-- The calling discipline: the caller adds what is not indexed, and names the
-- last position when it moves or removes an entity.
def Disciplined (s : Tracked E) : Call E → Prop
  | .addEntity entity _ => s.indexed (view.getID entity) = false
  | .removeEntity entity at_ => ∃ old ∈ s.last (view.getID entity), at_.x = old.x ∧ at_.z = old.z
  | .updateEntity entity _ oldX oldZ => ∃ old ∈ s.last (view.getID entity), oldX = old.x ∧ oldZ = old.z

instance decidableDisciplined (s : Tracked E) (call : Call E) : Decidable (s.Disciplined view call) := by
  cases call <;> unfold Disciplined <;> infer_instance

structure Tracks (s : Tracked E) : Prop where
  inside : ∀ id, ∀ old ∈ s.last id, s.manager.HasGrid old
  known : ∀ id, s.indexed id = true → (s.last id).isSome
  held : ∀ id place, (s.manager.stored place id).isSome ↔ s.indexed id = true ∧ ∃ old ∈ s.last id, place = s.manager.cell old

section Step

variable (s : Tracked E) (entity : E)

section

variable (tracks : s.Tracks)

include tracks

theorem Tracks.change (after : Tracked E) (id : String) (at_ : Position) (scene : after.manager.toScene = s.manager.toScene)
    (inside : s.manager.HasGrid at_) (last : after.last id = some at_)
    (others : ∀ other, other ≠ id → after.last other = s.last other ∧ after.indexed other = s.indexed other ∧
      ∀ place, after.manager.stored place other = s.manager.stored place other)
    (held : ∀ place, (after.manager.stored place id).isSome ↔ after.indexed id = true ∧ place = s.manager.cell at_) :
    after.Tracks := by
  constructor
  · intro other old noted
    rw [scene]
    by_cases same : other = id
    · rw [same, last, Option.mem_some_iff] at noted
      exact noted ▸ inside
    · rw [(others other same).1] at noted
      exact tracks.inside other old noted
  · intro other indexed
    by_cases same : other = id
    · rw [same, last, Option.isSome_some]
    · rw [(others other same).2.1] at indexed
      exact (others other same).1 ▸ tracks.known other indexed
  · intro other place
    rw [scene]
    by_cases same : other = id
    · subst same
      simp [held, last]
    · obtain ⟨position, indexed, stored⟩ := others other same
      rw [stored, position, indexed]
      exact tracks.held other place

theorem Tracks.elsewhere (id : String) (old : Position) (noted : old ∈ s.last id) (place : GridPos)
    (apart : place ≠ s.manager.cell old) : s.manager.stored place id = none := by
  rw [← Option.not_isSome_iff_eq_none]
  intro present
  obtain ⟨_, other, noted', here⟩ := (tracks.held id place).mp present
  rw [Option.mem_unique noted' noted] at here
  exact apart here

theorem Tracks.entered (at_ : Position) (inside : s.manager.HasGrid at_) (fresh : s.indexed (view.getID entity) = false) :
    (s.note view (s.manager.enter view (s.manager.cell at_) entity) (.addEntity entity at_)).Tracks := by
  refine tracks.change s _ (view.getID entity) at_ rfl inside (Function.update_self ..) ?_ ?_
  · intro other apart
    simp [note, apart]
  · intro place
    have absent : s.manager.stored place (view.getID entity) = none := by
      rw [← Option.not_isSome_iff_eq_none, tracks.held, fresh]
      simp
    by_cases here : place = s.manager.cell at_ <;> simp [note, here, absent]

theorem Tracks.left (at_ old : Position) (noted : old ∈ s.last (view.getID entity)) (same : s.manager.cell at_ = s.manager.cell old) :
    (s.note view (s.manager.leave view (s.manager.cell at_) entity) (.removeEntity entity at_)).Tracks := by
  refine tracks.change s _ (view.getID entity) old (AOIManager.leave_scene view _ entity s.manager) (tracks.inside _ old noted) noted ?_ ?_
  · intro other apart
    simp [note, apart]
  · intro place
    by_cases here : place = s.manager.cell old
    · simp [note, here, same]
    · simp [note, here, same, tracks.elsewhere s _ old noted place here]

theorem Tracks.stayed (at_ old : Position) (inside : s.manager.HasGrid at_) (noted : old ∈ s.last (view.getID entity))
    (same : s.manager.cell old = s.manager.cell at_) : (s.note view s.manager (.updateEntity entity at_ old.x old.z)).Tracks := by
  have before := tracks.inside _ old noted
  refine tracks.change s _ (view.getID entity) at_ rfl inside (Function.update_self ..) ?_ ?_
  · intro other apart
    simp [note, apart]
  · intro place
    have grids : s.manager.getGrid old.x old.z = s.manager.getGrid at_.x at_.z := by
      rw [s.manager.get_grid_inside old before, s.manager.get_grid_inside at_ inside, same]
    simp [note, grids, tracks.held, Option.mem_def.mp noted, same]

theorem Tracks.moved (at_ old : Position) (inside : s.manager.HasGrid at_) (noted : old ∈ s.last (view.getID entity))
    (apart : s.manager.cell old ≠ s.manager.cell at_) :
    (s.note view ((s.manager.leave view (s.manager.cell old) entity).enter view (s.manager.cell at_) entity)
      (.updateEntity entity at_ old.x old.z)).Tracks := by
  have before := tracks.inside _ old noted
  refine tracks.change s _ (view.getID entity) at_ (AOIManager.leave_scene view _ entity s.manager) inside
    (Function.update_self ..) ?_ ?_
  · intro other different
    simp [note, different]
  · intro place
    have grids : ((s.manager.getGrid old.x old.z).toOption != (s.manager.getGrid at_.x at_.z).toOption) = true := by
      rw [s.manager.get_grid_inside old before, s.manager.get_grid_inside at_ inside]
      simpa [Except.toOption] using apart
    by_cases here : place = s.manager.cell at_
    · simp [note, here, grids]
    · by_cases first : place = s.manager.cell old
      · simp [note, first, apart, grids]
      · simp [note, here, first, grids, tracks.elsewhere s _ old noted place first]

end

theorem step_tracks (call : Call E) (tracks : s.Tracks) (disciplined : s.Disciplined view call) : (s.step view call).Tracks := by
  rcases ran : call.run view s.manager with ⟨result, after⟩
  have effect := Call.run_effect view s.manager after call result ran
  rw [step, ran]
  cases effect with
  | refused call err outside => exact tracks
  | entered entity at_ inside => exact tracks.entered view s entity at_ inside disciplined
  | left entity at_ inside =>
    obtain ⟨old, noted, sameX, sameZ⟩ := disciplined
    exact tracks.left view s entity at_ old noted (by rw [Scene.cell, sameX, sameZ]; rfl)
  | stayed entity at_ named before inside same =>
    obtain ⟨old, noted, sameX, sameZ⟩ := disciplined
    have cells : s.manager.cell named = s.manager.cell old := by rw [Scene.cell, sameX, sameZ]; rfl
    rw [sameX, sameZ]
    exact tracks.stayed view s entity at_ old inside noted (cells ▸ same)
  | moved entity at_ named before inside apart =>
    obtain ⟨old, noted, sameX, sameZ⟩ := disciplined
    have cells : s.manager.cell named = s.manager.cell old := by rw [Scene.cell, sameX, sameZ]; rfl
    rw [sameX, sameZ, cells]
    exact tracks.moved view s entity at_ old inside noted (cells ▸ apart)

end Step

theorem new_tracks (minX maxX minZ maxZ : ℚ) (gridCount : Int) (counted : 0 < gridCount) :
    Tracks ({ manager := newAOIManager E minX maxX minZ maxZ gridCount counted } : Tracked E) := by
  constructor <;> simp

theorem entities_in_last_grid (minX maxX minZ maxZ : ℚ) (gridCount : Int) (counted : 0 < gridCount) (calls : List (Call E))
    (disciplined : Runs.Meets (step view) (Disciplined view)
      { manager := newAOIManager E minX maxX minZ maxZ gridCount counted } calls) :
    ∀ s ∈ Runs.visited (step view) { manager := newAOIManager E minX maxX minZ maxZ gridCount counted } calls,
      (∀ id, s.indexed id = true → ∃ old grid, s.last id = some old ∧ s.manager.getGrid old.x old.z = .ok grid ∧
        ∀ place, (s.manager.stored place id).isSome ↔ place = grid) ∧
      (∀ id, s.indexed id = false → ∀ place, s.manager.stored place id = none) ∧
      ∀ (call : Call E) (err : AoiError) (after : AOIManager E),
        call.run view s.manager = (.error err, after) → after = s.manager := by
  intro s seen
  have tracks := Runs.visited_invariant (step view) Tracks (Disciplined view)
    (fun s call tracks disciplined => step_tracks view s call tracks disciplined) _ calls
    (new_tracks minX maxX minZ maxZ gridCount counted) disciplined s seen
  refine ⟨?_, ?_, fun call err after => Call.run_refused view s.manager after call err⟩
  · intro id indexed
    obtain ⟨old, noted⟩ := Option.isSome_iff_exists.mp (tracks.known id indexed)
    refine ⟨old, s.manager.cell old, noted, s.manager.get_grid_inside old (tracks.inside id old noted), fun place => ?_⟩
    simp [tracks.held, indexed, noted]
  · intro id absent place
    rw [← Option.not_isSome_iff_eq_none, tracks.held, absent]
    simp

def pair : EntityView Bool where
  getID := fun player => if player then "player" else "monster"
  getPosition := fun _ => ⟨0, 0, 0⟩
  getTypeID := fun player => if player then 0 else 1

def wander : List (Call Bool) :=
  [.addEntity true ⟨3, 0, 4⟩, .updateEntity true ⟨200, 0, 4⟩ 3 4, .updateEntity true ⟨95, 0, 55⟩ 3 4,
    .addEntity false ⟨3, 0, 4⟩, .removeEntity false ⟨3, 0, 4⟩]

theorem wander_in_last_grid :
    ((Runs.visited (step pair) { manager := newAOIManager Bool 0 100 0 60 10 (by decide) } wander).map fun s =>
        (s.indexed "player", s.manager.stored ⟨0, 0⟩ "player", s.manager.stored ⟨9, 5⟩ "player")) =
      [(false, none, none), (true, some true, none), (true, some true, none), (true, none, some true), (true, none, some true),
        (true, none, some true)] ∧
    ∀ s ∈ Runs.visited (step pair) { manager := newAOIManager Bool 0 100 0 60 10 (by decide) } wander,
      (∀ id, s.indexed id = true → ∃ old grid, s.last id = some old ∧ s.manager.getGrid old.x old.z = .ok grid ∧
        ∀ place, (s.manager.stored place id).isSome ↔ place = grid) ∧
      ∀ id, s.indexed id = false → ∀ place, s.manager.stored place id = none := by
  refine ⟨by decide +kernel, fun s seen => ?_⟩
  obtain ⟨indexed, absent, _⟩ :=
    entities_in_last_grid pair 0 100 0 60 10 (by decide) wander (by decide +kernel) s seen
  exact ⟨indexed, absent⟩

end Tracked

end MmoServer.Aoi
