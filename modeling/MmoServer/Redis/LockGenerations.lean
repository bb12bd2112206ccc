import MmoServer.Redis.LockUnderway

set_option autoImplicit false

namespace MmoServer.Redis.RedisLock

-- A lock is only acquired when nothing of an earlier acquisition is under way.
def AcquiresSettled (l : RedisLock) : RenewalAction → Prop
  | .tryAcquire _ _ key _ => l.store.get (l.config.formatKey key) = none → l.outstanding key = []
  | _ => True

instance decidableAcquiresSettled (l : RedisLock) : ∀ action, Decidable (l.AcquiresSettled action)
  | .tryAcquire _ _ key _ => inferInstanceAs (Decidable (l.store.get (l.config.formatKey key) = none → l.outstanding key = []))
  | .startAutoRenew _ | .release .. | .refresh .. | .tick .. | .quit _ | .send _ | .receive | .handleStop | .elapse _ => isTrue trivial

def StopsAttributed (l : RedisLock) : Prop := ∀ info ∈ l.infos, ∀ cause ∈ info.renewChan, cause = info.token

variable (before after : RedisLock) (action : RenewalAction)

theorem step_known (placed : before.Placed) (settled : before.AcquiresSettled action) (taken : before.step action = some after)
    (key : String) :
    (∀ token, after.Known key token → before.Known key token) ∨ ∃ token, ∀ other, after.Known key other → other = token := by
  have kept : Within before after → ∀ token, after.Known key token → before.Known key token :=
    fun within token => within.known before after key token
  match action with
  | .tryAcquire random fault asked timeout =>
    cases taken
    rcases try_acquire_fresh before random fault asked timeout with within | ⟨free, token, fresh⟩
    · exact .inl (kept within)
    · by_cases same : key = asked
      · -- Nothing of the key was under way, so the new token is the only one.
        refine .inr ⟨token, fun other known => ?_⟩
        rcases fresh key other known with old | new
        · have under := old.outstanding before key other (same ▸ free)
          rw [same, settled free] at under
          cases under
        · exact new.2
      · exact .inl fun token known => (fresh key token known).resolve_right fun new => same new.1
  | .startAutoRenew index => exact .inl (kept (start_within before after index placed taken))
  | .release fault asked token =>
    cases taken
    exact .inl (kept (release_within before fault asked token))
  | .refresh fault asked token timeout =>
    cases taken
    exact .inl (kept (store_within before _ (no_new_token_refresh before.config fault asked token timeout before.store)))
  | .tick ref fault => exact .inl (kept (tick_within before after ref fault taken))
  | .quit ref => exact .inl (kept (quit_within before after ref taken))
  | .send index => exact .inl (kept (send_within before after index taken))
  | .receive => exact .inl (kept (receive_within before after taken))
  | .handleStop => exact .inl (kept (handle_stop_within before after taken))
  | .elapse ms =>
    cases taken
    exact .inl (kept (store_within before _ (no_new_token_elapse before.store ms)))

inductive Loops (before after : RedisLock) : Prop where
  | kept (infos : after.infos = before.infos) (active : after.activeLocks = before.activeLocks)
  | started (start : Starting) (infos : after.infos = before.infos ++ [⟨start.key, start.token, start.timeout, none, true⟩])
      (active : after.activeLocks = before.activeLocks.insert start.key before.infos.length)
  | left (ref : Nat) (infos : after.infos = before.infos.modify ref stopLoop) (active : after.activeLocks = before.activeLocks)
  | told (request : StopRequest) (handled : request ∈ before.stops) (ref : Nat) (entry : before.activeLocks.lookup request.key = some ref)
      (infos : after.infos = before.infos.modify ref (closeChan request.cause))
      (active : after.activeLocks = before.activeLocks.erase request.key)

theorem step_loops (taken : before.step action = some after) : Loops before after := by
  cases action with
  | tryAcquire random fault key timeout =>
    cases taken
    obtain ⟨added, now, _⟩ := try_acquire_eq before random fault key timeout
    rw [now]
    exact .kept rfl rfl
  | startAutoRenew index =>
    simp only [step, startAutoRenew] at taken
    split at taken
    · cases taken
    · rename_i start _
      cases taken
      exact .started start rfl rfl
  | release fault key token =>
    cases taken
    simp only [release]
    split <;> exact .kept rfl rfl
  | refresh fault key token timeout | elapse ms =>
    cases taken
    exact .kept rfl rfl
  | tick ref fault =>
    simp only [step, tick] at taken
    split at taken
    · cases taken
    · split at taken
      · simp only [refresh] at taken
        split at taken
        · rename_i refreshed answered
          obtain ⟨_, rfl⟩ := Prod.mk.inj answered
          cases taken
          exact .left ref rfl rfl
        · rename_i _ refreshed _ answered
          obtain ⟨_, rfl⟩ := Prod.mk.inj answered
          cases taken
          exact .kept rfl rfl
      · cases taken
  | quit ref =>
    simp only [step, quit] at taken
    split at taken
    · cases taken
    · split at taken
      · cases taken
        exact .left ref rfl rfl
      · cases taken
  | send index =>
    simp only [step, send] at taken
    split at taken
    · cases taken
    · split at taken <;> cases taken
      exact .kept rfl rfl
  | receive =>
    simp only [step, receive] at taken
    split at taken <;> cases taken
    exact .kept rfl rfl
  | handleStop =>
    simp only [step, handleStop] at taken
    split at taken
    · cases taken
    · rename_i request held
      split at taken
      · cases taken
        exact .kept rfl rfl
      · rename_i ref entry
        cases taken
        exact .told request (by simp [stops, held]) ref entry rfl rfl

theorem step_placed (placed : before.Placed) (loops : Loops before after) : after.Placed := by
  cases loops with
  | kept infos active =>
    rw [Placed, infos, active]
    exact placed
  | started start infos active =>
    intro key ref entry
    rw [infos, List.length_append, List.length_singleton]
    rw [active, AList.lookup_insert_eq] at entry
    split at entry
    · cases entry
      exact Nat.lt_succ_self _
    · exact (placed key ref entry).trans (Nat.lt_succ_self _)
  | left ref infos active =>
    rw [Placed, infos, active, List.length_modify]
    exact placed
  | told request _ ref _ infos active =>
    intro key other entry
    rw [infos, List.length_modify]
    rw [active, AList.lookup_erase_eq] at entry
    split at entry
    · cases entry
    · exact placed key other entry

theorem modify_all (infos : List LockInfo) (ref : Nat) (change : LockInfo → LockInfo) (holds : LockInfo → Prop)
    (all : ∀ info ∈ infos, holds info) (changed : ∀ info, infos[ref]? = some info → holds (change info)) :
    ∀ info ∈ infos.modify ref change, holds info := by
  intro info member
  obtain ⟨other, found⟩ := List.mem_iff_getElem?.mp member
  rw [List.getElem?_modify] at found
  obtain ⟨old, before, rfl⟩ := Option.map_eq_some_iff.mp found
  split
  · rename_i same
    exact changed old (same ▸ before)
  · exact all old (List.mem_of_getElem? before)

theorem step_attributed (attributed : before.StopsAttributed) (loops : Loops before after)
    (single : ∀ key first second, before.Known key first → before.Known key second → first = second) : after.StopsAttributed := by
  cases loops with
  | kept infos _ =>
    rw [StopsAttributed, infos]
    exact attributed
  | started start infos _ =>
    intro info member
    rw [infos] at member
    rcases List.mem_append.mp member with old | new
    · exact attributed info old
    · rw [List.mem_singleton.mp new]
      rintro cause ⟨⟩
  | left ref infos _ =>
    rw [StopsAttributed, infos]
    exact modify_all before.infos ref stopLoop _ attributed fun info found => attributed info (List.mem_of_getElem? found)
  | told request handled ref entry infos _ =>
    rw [StopsAttributed, infos]
    refine modify_all before.infos ref _ _ attributed fun info found => ?_
    rintro cause ⟨⟩
    exact single request.key _ _ (known_stopping before request handled) (known_active before request.key ref info entry found)

structure OneGeneration (l : RedisLock) : Prop where
  placed : l.Placed
  single : ∀ key first second, l.Known key first → l.Known key second → first = second
  attributed : l.StopsAttributed

theorem step_one_generation (one : before.OneGeneration) (settled : before.AcquiresSettled action)
    (taken : before.step action = some after) : after.OneGeneration := by
  have loops := step_loops before after action taken
  refine ⟨step_placed before after one.placed loops, fun key first second known also => ?_,
    step_attributed before after one.attributed loops one.single⟩
  rcases step_known before after action one.placed settled taken key with old | ⟨token, only⟩
  · exact one.single key first second (old first known) (old second also)
  · rw [only first known, only second also]

theorem new_one_generation (config : Option LockConfig) (store : Store) : (newLock config store).OneGeneration := by
  have stored : ∀ key token, (newLock config store).Known key token →
      ∃ held, store.get ((newLock config store).config.formatKey key) = some held ∧ held.token = token := by
    intro key token known
    cases known with
    | stored held found own => exact ⟨held, found, own⟩
    | starting _ member | running _ member => cases member
    | active _ _ entry => cases entry
    | stopping _ member => cases member
  refine ⟨by rintro key ref ⟨⟩, fun key first second one two => ?_, by rintro info ⟨⟩⟩
  obtain ⟨held, found, own⟩ := stored key first one
  obtain ⟨other, also, same⟩ := stored key second two
  rw [found, Option.some_inj] at also
  rw [← own, ← same, also]

theorem stops_only_own_generation (config : Option LockConfig) (store : Store) (l : RedisLock)
    (reached : Runs.Reached step AcquiresSettled (newLock config store) l) : l.StopsAttributed := by
  have one : l.OneGeneration := Runs.reached_invariant step AcquiresSettled OneGeneration _ l (new_one_generation config store)
    (fun before action after one settled taken => step_one_generation before after action one settled taken) reached
  exact one.attributed

def reacquired : List RenewalAction :=
  [.tryAcquire (.ok (Vector.replicate 16 1)) none "world" 0, .startAutoRenew 0, .release none "world" (hexText (List.replicate 16 1)),
    .send 0, .receive, .handleStop, .quit 0, .tryAcquire (.ok (Vector.replicate 16 2)) none "world" 0, .startAutoRenew 0, .tick 1 none]

theorem settled_reacquire_attributed :
    ∃ l, Runs.run step (newLock none ⟨0, ∅⟩) reacquired = some l ∧
      l.infos.map (fun info => (info.token, info.renewChan, info.running)) =
        [(hexText (List.replicate 16 1), some (hexText (List.replicate 16 1)), false), (hexText (List.replicate 16 2), none, true)] ∧
      l.StopsAttributed := by
  have observed : (Runs.run step (newLock none ⟨0, ∅⟩) reacquired).map (fun l =>
      l.infos.map fun info => (info.token, info.renewChan, info.running)) =
      some [(hexText (List.replicate 16 1), some (hexText (List.replicate 16 1)), false),
        (hexText (List.replicate 16 2), none, true)] := by
    decide +kernel
  obtain ⟨l, ran, seen⟩ := Option.map_eq_some_iff.mp observed
  have reached := Runs.reached_of_run step AcquiresSettled _ _ l reacquired .start (by decide +kernel) ran
  exact ⟨l, ran, seen, stops_only_own_generation none ⟨0, ∅⟩ l reached⟩

def reacquiredEarly : List RenewalAction :=
  [.tryAcquire (.ok (Vector.replicate 16 1)) none "world" 0, .startAutoRenew 0, .release none "world" (hexText (List.replicate 16 1)),
    .send 0, .tryAcquire (.ok (Vector.replicate 16 2)) none "world" 0, .startAutoRenew 0, .receive, .handleStop, .quit 1]

theorem late_stop_ends_new_renewal :
    (Runs.run step (newLock none ⟨0, ∅⟩) reacquiredEarly).map (fun l =>
        (l.infos.map fun info => (info.token, info.renewChan, info.running), l.store.get "lock:world")) =
      some ([(hexText (List.replicate 16 1), none, true), (hexText (List.replicate 16 2), some (hexText (List.replicate 16 1)), false)],
        some ⟨hexText (List.replicate 16 2), some 30000⟩) := by
  decide +kernel

end MmoServer.Redis.RedisLock
