import MmoServer.Gateway.LastActivity
import MmoServer.Lib.Runs

set_option autoImplicit false

namespace MmoServer.Gateway

open SessionManager

structure Removal where
  sessionID : List UInt8
  time : Int
  lastActivity : Int
deriving DecidableEq, Repr

-- A checker with nothing left to remove waits for its next turn. It holds the read lock
-- while it collects.
inductive CheckPhase where
  | started (now : Int)
  | collecting (now : Int) (pending : List (List UInt8 × SessionRef)) (expired : List (List UInt8))
  | removing (expired : List (List UInt8))

namespace CheckPhase

def now : CheckPhase → Option Int
  | .started now | .collecting now _ _ => some now
  | .removing _ => none

def pending : CheckPhase → List (List UInt8 × SessionRef)
  | .collecting _ pending _ => pending
  | .started _ | .removing _ => []

def expired : CheckPhase → List (List UInt8)
  | .collecting _ _ expired | .removing expired => expired
  | .started _ => []

def reads : CheckPhase → Bool
  | .collecting _ _ _ => true
  | .started _ | .removing _ => false

end CheckPhase

structure Heartbeats where
  manager : SessionManager
  clock : Int
  phase : CheckPhase := .removing []
  removed : List Removal := []

namespace Heartbeats

inductive Action where
  | tick (passed : Nat)
  | create (s : Session)
  | active (ref : SessionRef) (time : Int)
  | removeSession (id : List UInt8)
  | addSession (ref : SessionRef)
  | getOrCreate (id : List UInt8) (time : Int)
  | start
  | lock (order : Shuffle (List UInt8 × SessionRef))
  | look
  | unlock
  | remove

section Steps

variable (state : Heartbeats)

def locked (change : SessionManager → SessionManager) : Option Heartbeats :=
  if state.phase.reads then none else some { state with manager := change state.manager }

def removal (id : List UInt8) : List Removal := (state.manager.lastActive id).toList.map fun last => ⟨id, state.clock, last⟩

def step : Action → Option Heartbeats
  | .tick passed => some { state with clock := state.clock + passed }
  | .create s => if s.lastActivity ≤ state.clock then some { state with manager := state.manager.alloc s } else none
  | .active ref time =>
    if time ≤ state.clock then some { state with manager := state.manager.change ref (Session.updateLastActiveTime time) } else none
  | .removeSession id => state.locked fun m => (m.removeSession id).2
  | .addSession ref => state.locked fun m => (m.addSession ref).2
  | .getOrCreate id time => if time ≤ state.clock then state.locked fun m => (m.getOrCreate id time).2 else none
  | .start =>
    match state.phase with
    | .removing [] => some { state with phase := .started state.clock }
    | _ => none
  | .lock order =>
    match state.phase with
    | .started now => some { state with phase := .collecting now (order.apply state.manager.sessions.pairs) [] }
    | _ => none
  | .look =>
    match state.phase with
    | .collecting now ((id, ref) :: pending) expired =>
      some { state with phase := .collecting now pending (if state.manager.Expired now ref then expired ++ [id] else expired) }
    | _ => none
  | .unlock =>
    match state.phase with
    | .collecting _ [] expired => some { state with phase := .removing expired }
    | _ => none
  | .remove =>
    match state.phase with
    | .removing (id :: expired) =>
      some { state with
        manager := (state.manager.removeSession id).2
        phase := .removing expired
        removed := state.removed ++ state.removal id }
    | _ => none

end Steps

section Alone

variable (m : SessionManager) (clock : Int)

theorem look_alone (now : Int) (pending : List (List UInt8 × SessionRef)) (expired : List (List UInt8)) (removed : List Removal) :
    Runs.run step ⟨m, clock, .collecting now pending expired, removed⟩ (List.replicate pending.length .look) =
      some ⟨m, clock, .collecting now [] (expired ++ (pending.filter fun entry => m.Expired now entry.2).map Prod.fst), removed⟩ := by
  induction pending generalizing expired with
  | nil => simp [Runs.run]
  | cons entry rest ih =>
    rw [List.length_cons, List.replicate_succ, Runs.run, step, Option.bind_some, ih]
    by_cases late : m.Expired now entry.2 <;> simp [late]

theorem remove_alone (expired : List (List UInt8)) (removed : List Removal) :
    ∃ removed', Runs.run step ⟨m, clock, .removing expired, removed⟩ (List.replicate expired.length .remove) =
      some ⟨expired.foldl (fun m id => (m.removeSession id).2) m, clock, .removing [], removed'⟩ := by
  induction expired generalizing m removed with
  | nil => exact ⟨removed, rfl⟩
  | cons id rest ih =>
    rw [List.length_cons, List.replicate_succ, Runs.run, step, Option.bind_some]
    exact ih _ _

def ownSteps (order : Shuffle (List UInt8 × SessionRef)) : List Action :=
  .start :: .lock order :: (List.replicate (order.apply m.sessions.pairs).length Action.look ++
    .unlock :: List.replicate (m.expiredSessions clock order).length Action.remove)

theorem check_alone (order : Shuffle (List UInt8 × SessionRef)) (removed : List Removal) :
    ∃ removed', Runs.run step ⟨m, clock, .removing [], removed⟩ (ownSteps m clock order) =
      some ⟨m.checkHeartbeats clock order, clock, .removing [], removed'⟩ := by
  obtain ⟨removed', ends⟩ := remove_alone m clock (m.expiredSessions clock order) removed
  refine ⟨removed', ?_⟩
  rw [ownSteps, Runs.run, step, Option.bind_some, Runs.run, step, Option.bind_some, Runs.run_append, look_alone, Option.bind_some,
    Runs.run, step, Option.bind_some, List.nil_append]
  exact ends

end Alone

section Invariant

variable (state : Heartbeats)

def Spares : Action → Prop
  | .active ref time =>
    ∀ id ∈ state.phase.expired, state.manager.sessions.lookup id = some ref → state.manager.heartbeatTTL < state.clock - time
  | .addSession ref => ∀ s ∈ state.manager.heap[ref]?, s.id ∈ state.phase.expired → state.manager.sessions.lookup s.id = none →
      state.manager.heartbeatTTL < state.clock - s.lastActivity
  | .getOrCreate id time => id ∈ state.phase.expired → state.manager.heartbeatTTL < state.clock - time
  | _ => True

instance decidableSpares : ∀ action, Decidable (state.Spares action)
  | .active ref time => inferInstanceAs (Decidable (∀ id ∈ state.phase.expired,
      state.manager.sessions.lookup id = some ref → state.manager.heartbeatTTL < state.clock - time))
  | .addSession ref => inferInstanceAs (Decidable (∀ s ∈ state.manager.heap[ref]?, s.id ∈ state.phase.expired →
      state.manager.sessions.lookup s.id = none → state.manager.heartbeatTTL < state.clock - s.lastActivity))
  | .getOrCreate id time =>
    inferInstanceAs (Decidable (id ∈ state.phase.expired → state.manager.heartbeatTTL < state.clock - time))
  | .tick _ | .create _ | .removeSession _ | .start | .lock _ | .look | .unlock | .remove => inferInstanceAs (Decidable True)

structure Sound : Prop where
  keyed : state.manager.Keyed
  past : ∀ now ∈ state.phase.now, now ≤ state.clock
  pending : ∀ entry ∈ state.phase.pending, state.manager.sessions.lookup entry.1 = some entry.2
  doomed : ∀ id ∈ state.phase.expired, ∀ last ∈ state.manager.lastActive id, state.manager.heartbeatTTL < state.clock - last
  inactive : ∀ removal ∈ state.removed, state.manager.heartbeatTTL < removal.time - removal.lastActivity

theorem sound_manager (m : SessionManager) (same : m.heartbeatTTL = state.manager.heartbeatTTL) (keyed : m.Keyed)
    (pending : ∀ entry ∈ state.phase.pending, m.sessions.lookup entry.1 = state.manager.sessions.lookup entry.1)
    (given : ∀ id ∈ state.phase.expired, ∀ last, m.lastActive id = some last →
      state.manager.lastActive id = some last ∨ state.manager.heartbeatTTL < state.clock - last) (sound : state.Sound) :
    Sound { state with manager := m } where
  keyed := keyed
  past := sound.past
  pending entry member := (pending entry member).trans (sound.pending entry member)
  doomed id member last active := by
    rw [same]
    rcases given id member last active with kept | old
    · exact sound.doomed id member last kept
    · exact old
  inactive removal member := by
    rw [same]
    exact sound.inactive removal member

theorem sound_locked (change : SessionManager → SessionManager) (after : Heartbeats) (taken : state.locked change = some after)
    (same : (change state.manager).heartbeatTTL = state.manager.heartbeatTTL) (keyed : (change state.manager).Keyed)
    (given : ∀ id ∈ state.phase.expired, ∀ last, (change state.manager).lastActive id = some last →
      state.manager.lastActive id = some last ∨ state.manager.heartbeatTTL < state.clock - last) (sound : state.Sound) :
    after.Sound := by
  rw [locked] at taken
  split at taken
  · cases taken
  · rename_i free
    cases taken
    refine sound_manager state _ same keyed ?_ given sound
    intro entry member
    cases stage : state.phase with
    | collecting => simp [stage, CheckPhase.reads] at free
    | started | removing => simp [stage, CheckPhase.pending] at member

theorem expired_last_active (m : SessionManager) (id : List UInt8) (ref : SessionRef) (now last : Int)
    (found : m.sessions.lookup id = some ref) (late : m.Expired now ref) (active : m.lastActive id = some last) :
    m.heartbeatTTL < now - last := by
  obtain ⟨s, read, old⟩ := late
  rw [lastActive, found, Option.bind_some, Option.mem_def.mp read] at active
  cases active
  exact old

theorem sound_look (after : Heartbeats) (sound : state.Sound) (taken : state.step .look = some after) : after.Sound := by
  rw [step] at taken
  split at taken
  · rename_i now id ref rest expired stage
    cases taken
    have past := sound.past now (by rw [stage]; rfl)
    have here := sound.pending (id, ref) (by rw [stage]; exact List.mem_cons_self)
    refine ⟨sound.keyed, ?_, ?_, ?_, sound.inactive⟩
    · rintro _ ⟨⟩
      exact past
    · intro entry member
      exact sound.pending entry (by rw [stage]; exact List.mem_cons_of_mem _ member)
    · intro other member last active
      have before : other ∈ expired → state.manager.heartbeatTTL < state.clock - last := by
        intro earlier
        exact sound.doomed other (by rw [stage]; exact earlier) last active
      simp only [CheckPhase.expired] at member
      split at member
      · rename_i late
        rcases List.mem_append.mp member with earlier | new
        · exact before earlier
        · obtain rfl := List.mem_singleton.mp new
          have old := expired_last_active state.manager other ref now last here late active
          show state.manager.heartbeatTTL < state.clock - last
          omega
      · exact before member
  · cases taken

theorem sound_remove (after : Heartbeats) (sound : state.Sound) (taken : state.step .remove = some after) : after.Sound := by
  rw [step] at taken
  split at taken
  · rename_i id rest stage
    cases taken
    have same := ttl_remove state.manager id
    refine ⟨keyed_remove state.manager id sound.keyed, nofun, nofun, ?_, ?_⟩
    · intro other member last active
      rw [same]
      rw [Option.mem_def, last_active_remove] at active
      split at active
      · cases active
      · exact sound.doomed other (by rw [stage]; exact List.mem_cons_of_mem _ member) last active
    · intro removal member
      rw [same]
      rcases List.mem_append.mp member with earlier | new
      · exact sound.inactive removal earlier
      · obtain ⟨last, active, rfl⟩ := List.mem_map.mp new
        exact sound.doomed id (by rw [stage]; exact List.mem_cons_self) last (Option.mem_toList.mp active)
  · cases taken

theorem sound_step (action : Action) (after : Heartbeats) (sound : state.Sound) (spares : state.Spares action)
    (taken : state.step action = some after) : after.Sound := by
  cases action with
  | tick passed =>
    cases taken
    refine ⟨sound.keyed, ?_, sound.pending, ?_, sound.inactive⟩
    · intro now its
      exact (sound.past now its).trans (Int.le_add_of_nonneg_right (Int.natCast_nonneg passed))
    · intro id member last active
      have old := sound.doomed id member last active
      show state.manager.heartbeatTTL < state.clock + passed - last
      omega
  | create s =>
    rw [step, Option.ite_none_right_eq_some] at taken
    obtain ⟨-, ⟨⟩⟩ := taken
    refine sound_manager state _ rfl (keyed_alloc _ s sound.keyed) (fun _ _ => rfl) ?_ sound
    intro id _ last active
    exact .inl ((last_active_alloc _ s sound.keyed id).symm.trans active)
  | active ref time =>
    rw [step, Option.ite_none_right_eq_some] at taken
    obtain ⟨-, ⟨⟩⟩ := taken
    refine sound_manager state _ rfl (keyed_change _ ref _ (fun _ => rfl) sound.keyed) (fun _ _ => rfl) ?_ sound
    intro id member last active
    rcases last_active_update _ ref time id last active with kept | ⟨found, rfl⟩
    · exact .inl kept
    · exact .inr (spares id member found)
  | removeSession id =>
    rw [step] at taken
    refine sound_locked state _ after taken (ttl_remove _ id) (keyed_remove _ id sound.keyed) ?_ sound
    intro other _ last active
    rw [last_active_remove] at active
    split at active
    · cases active
    · exact .inl active
  | addSession ref =>
    rw [step] at taken
    refine sound_locked state _ after taken (ttl_add _ ref) (keyed_add _ ref sound.keyed) ?_ sound
    intro id member last active
    rcases last_active_add _ ref id last active with kept | ⟨s, read, rfl, free, rfl⟩
    · exact .inl kept
    · exact .inr (spares s read member free)
  | getOrCreate id time =>
    rw [step, Option.ite_none_right_eq_some] at taken
    refine sound_locked state _ after taken.2 (ttl_get_or_create _ id time)
      (keyed_get_or_create _ id time sound.keyed) ?_ sound
    intro other member last active
    rcases last_active_get_or_create _ id other time last sound.keyed active with kept | ⟨rfl, rfl⟩
    · exact .inl kept
    · exact .inr (spares member)
  | start =>
    rw [step] at taken
    split at taken
    · cases taken
      refine ⟨sound.keyed, ?_, nofun, nofun, sound.inactive⟩
      rintro _ ⟨⟩
      exact le_rfl
    · cases taken
  | lock order =>
    rw [step] at taken
    split at taken
    · rename_i now stage
      cases taken
      refine ⟨sound.keyed, ?_, ?_, nofun, sound.inactive⟩
      · rintro _ ⟨⟩
        exact sound.past now (by rw [stage]; rfl)
      · intro entry member
        exact (AList.mem_pairs _ entry.1 entry.2).mp ((Shuffle.mem_apply order _ _).mp member)
    · cases taken
  | look => exact sound_look state after sound taken
  | unlock =>
    rw [step] at taken
    split at taken
    · rename_i now expired stage
      cases taken
      refine ⟨sound.keyed, nofun, nofun, ?_, sound.inactive⟩
      intro id member
      exact sound.doomed id (by rw [stage]; exact member)
    · cases taken
  | remove => exact sound_remove state after sound taken

end Invariant

-- In every interleaving in which no ID that is to be removed is given a recent activity,
-- what checkHeartbeats removes has been inactive for longer than the time to live.
theorem removed_inactive (m : SessionManager) (clock : Int) (keyed : m.Keyed) (state : Heartbeats)
    (reached : Runs.Reached step Spares ⟨m, clock, .removing [], []⟩ state) :
    ∀ removal ∈ state.removed, state.manager.heartbeatTTL < removal.time - removal.lastActivity := by
  have initial : Sound ⟨m, clock, .removing [], []⟩ := ⟨keyed, nofun, nofun, nofun, nofun⟩
  have sound := Runs.reached_invariant step Spares Sound _ state initial
    (fun state action after sound spares taken => sound_step state action after sound spares taken) reached
  exact sound.inactive

def waiting : Heartbeats := ⟨{ heartbeatTTL := 10 }, 0, .removing [], []⟩

def oneIdle : List Action :=
  [.getOrCreate [65] 0, .tick 95, .getOrCreate [66] 95, .tick 5, .start, .lock .listed, .look, .look, .unlock, .active 1 100,
    .tick 1, .remove]

theorem idle_session_removed :
    ∃ state, Runs.run step waiting oneIdle = some state ∧ state.removed = [⟨[65], 101, 0⟩] ∧
      ∀ removal ∈ state.removed, state.manager.heartbeatTTL < removal.time - removal.lastActivity := by
  have ends : ((Runs.run step waiting oneIdle).map Heartbeats.removed) = some [⟨[65], 101, 0⟩] := by decide +kernel
  obtain ⟨state, ran, removed⟩ := Option.map_eq_some_iff.mp ends
  have reached := Runs.reached_of_run step Spares waiting waiting state oneIdle .start (by decide +kernel) ran
  exact ⟨state, ran, removed, removed_inactive { heartbeatTTL := 10 } 0 nofun state reached⟩

def usedLate : List Action :=
  [.getOrCreate [65] 0, .tick 100, .start, .lock .listed, .look, .unlock, .tick 1, .active 0 101, .tick 1, .remove]

def reusedLate : List Action :=
  [.getOrCreate [65] 0, .tick 100, .start, .lock .listed, .look, .unlock, .removeSession [65], .tick 1, .getOrCreate [65] 101,
    .tick 1, .remove]

theorem active_session_removed :
    ((Runs.run step waiting usedLate).map Heartbeats.removed) = some [⟨[65], 102, 101⟩] ∧
      ((Runs.run step waiting reusedLate).map fun state => (state.removed, state.manager.heap.map Session.closed)) =
        some ([⟨[65], 102, 101⟩], [true, true]) ∧
      ¬waiting.manager.heartbeatTTL < 102 - 101 := by
  decide +kernel

end Heartbeats

end MmoServer.Gateway
