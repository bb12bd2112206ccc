import MmoServer.Lib.Runs
import MmoServer.Redis.Lock

set_option autoImplicit false

namespace MmoServer.Redis

inductive LockCall where
  | tryAcquire (key : String) (timeout : Int) (random : Random)
  | release (key token : String)
  | refresh (key token : String) (timeout : Int)

inductive LockAction where
  | call (client : LockConfig) (call : LockCall) (fault : Option Fault)
  | elapse (ms : Nat)

namespace Store

def step (s : Store) : LockAction → Option Store
  | .call client (.tryAcquire key timeout random) fault => some (client.tryAcquire random fault key timeout s).2
  | .call client (.release key token) fault => some (client.release fault key token s).2
  | .call client (.refresh key token timeout) fault => some (client.refresh fault key token timeout s).2
  | .elapse ms => some (s.elapse ms)

-- The lock is not released with its token, it does not expire, and no Refresh is
-- for less than a millisecond.
def KeepsLock (lockKey token : String) (s : Store) : LockAction → Prop
  | .call client (.release key other) fault =>
    client.formatKey key = lockKey → other = token → fault.any (fun fault => !fault.executed) = true
  | .call client (.refresh _ _ timeout) _ => 1 ≤ client.timeoutMs timeout
  | .elapse ms => ∀ held ∈ s.get lockKey, held.live (s.now + ms) = true
  | .call _ (.tryAcquire ..) _ => True

instance decidableKeepsLock (lockKey token : String) (s : Store) : ∀ action, Decidable (s.KeepsLock lockKey token action)
  | .call client (.release key other) fault =>
    inferInstanceAs (Decidable (client.formatKey key = lockKey → other = token → fault.any (fun fault => !fault.executed) = true))
  | .call client (.refresh _ _ timeout) _ => inferInstanceAs (Decidable (1 ≤ client.timeoutMs timeout))
  | .elapse ms => inferInstanceAs (Decidable (∀ held ∈ s.get lockKey, held.live (s.now + ms) = true))
  | .call _ (.tryAcquire ..) _ => isTrue trivial

def HeldBy (lockKey token : String) (s : Store) : Prop := ∃ held, s.get lockKey = some held ∧ held.token = token

structure Owned (lockKey token : String) (s : Store) : Prop where
  acquires : ∀ (client : LockConfig) (key : String) (timeout : Int) (random : Random) (fault : Option Fault),
    client.formatKey key = lockKey → (∀ other, (client.tryAcquire random fault key timeout s).1 ≠ .ok (some other)) ∧
      (client.tryAcquire random fault key timeout s).2 = s
  locked : ∀ (client : LockConfig) (key : String), client.formatKey key = lockKey → client.isLocked none key token s = .ok true
  releases : ∀ (client : LockConfig) (key other : String) (fault : Option Fault), client.formatKey key = lockKey → other ≠ token →
    succeeded (client.release fault key other s).1 = false ∧ (client.release fault key other s).2 = s
  refreshes : ∀ (client : LockConfig) (key other : String) (timeout : Int) (fault : Option Fault),
    client.formatKey key = lockKey → other ≠ token →
      succeeded (client.refresh fault key other timeout s).1 = false ∧ (client.refresh fault key other timeout s).2 = s

section Holder

variable (lockKey token : String) (s : Store)

theorem HeldBy.refuses (held : s.HeldBy lockKey token) (failure : String) (fault : Option Fault) (other : String)
    (command : Store → Store) (apart : other ≠ token) :
    succeeded (evalScript failure fault (ownerScript lockKey other command) s).1 = false ∧
      (evalScript failure fault (ownerScript lockKey other command) s).2 = s := by
  obtain ⟨entry, found, own⟩ := held
  rcases eval_script_cases fault lockKey other s failure command with ⟨same, refused⟩ | ⟨entry, also, matched, _⟩
  · exact ⟨refused, same⟩
  · rw [found, Option.some_inj] at also
    rw [← also, own] at matched
    exact absurd matched.symm apart

theorem HeldBy.owned (held : s.HeldBy lockKey token) : s.Owned lockKey token := by
  refine ⟨?_, ?_, ?_, ?_⟩
  · rintro client key timeout random fault rfl
    obtain ⟨entry, found, own⟩ := held
    rcases try_acquire_cases client fault key timeout s random with ⟨same, refused⟩ | ⟨free, _⟩
    · exact ⟨refused, same⟩
    · rw [found] at free
      cases free
  · rintro client key rfl
    obtain ⟨entry, found, own⟩ := held
    simp only [LockConfig.isLocked, found, own]
    split <;> simp
  · rintro client key other fault rfl apart
    exact held.refuses _ token s _ fault other _ apart
  · rintro client key other timeout fault rfl apart
    exact held.refuses _ token s _ fault other _ apart

theorem eval_script_unsent (failure : String) (fault : Option Fault) (script : Store → Except String Int × Store)
    (unsent : fault.any (fun fault => !fault.executed) = true) : (evalScript failure fault script s).2 = s := by
  cases fault with
  | none => cases unsent
  | some fault =>
    have not : fault.executed = false := by simpa using unsent
    simp [evalScript, perform, not]

theorem held_step (before after : Store) (action : LockAction) (held : before.HeldBy lockKey token)
    (keeps : before.KeepsLock lockKey token action) (taken : before.step action = some after) : after.HeldBy lockKey token := by
  obtain ⟨entry, found, own⟩ := id held
  match action with
  | .call client (.tryAcquire key timeout random) fault =>
    obtain rfl : _ = after := Option.some.inj taken
    rcases try_acquire_cases client fault key timeout before random with ⟨same, _⟩ | ⟨free, stored, _, put, _⟩
    · rw [same]
      exact held
    · have apart : lockKey ≠ client.formatKey key := by
        rintro rfl
        rw [found] at free
        cases free
      exact ⟨entry, by rw [put, get_put, if_neg apart, found], own⟩
  | .call client (.release key other) fault =>
    obtain rfl : _ = after := Option.some.inj taken
    rcases release_cases client fault key other before with ⟨same, _⟩ | ⟨theirs, also, matched, done⟩
    · rw [same]
      exact held
    · by_cases here : lockKey = client.formatKey key
      · -- The token matches, so the request did not reach Redis.
        rw [← here, found, Option.some_inj] at also
        rw [← also, own] at matched
        have same : (client.release fault key other before).2 = before :=
          eval_script_unsent before _ fault _ (keeps here.symm matched.symm)
        rw [same]
        exact held
      · exact ⟨entry, by rw [done, get_del, if_neg here, found], own⟩
  | .call client (.refresh key other timeout) fault =>
    obtain rfl : _ = after := Option.some.inj taken
    have positive : ¬ client.timeoutMs timeout ≤ 0 := by
      have long : 1 ≤ client.timeoutMs timeout := keeps
      omega
    rcases refresh_cases client fault key other timeout before with ⟨same, _⟩ | ⟨theirs, also, matched, done⟩
    · rw [same]
      exact held
    · rw [done]
      by_cases here : lockKey = client.formatKey key
      · rw [← here] at also ⊢
        rw [found, Option.some_inj] at also
        have renewed := get_pexpire before lockKey (client.timeoutMs timeout) entry found
        rw [if_neg positive] at renewed
        exact ⟨_, renewed, own⟩
      · exact ⟨entry, by rw [get_pexpire_other before _ lockKey _ here, found], own⟩
  | .elapse ms =>
    obtain rfl : _ = after := Option.some.inj taken
    have stored : before.keys.lookup lockKey = some entry := (Option.filter_eq_some_iff.mp found).1
    refine ⟨entry, ?_, own⟩
    rw [get, elapse, stored]
    exact Option.filter_some_pos (keeps entry found)

end Holder

-- Any number of clients, with faults and lost replies, from a successful TryAcquire on.
theorem lock_owned_until_released (client : LockConfig) (key token : String) (timeout : Int) (random : Random)
    (before acquired s : Store) (ok : client.tryAcquire random none key timeout before = (.ok (some token), acquired))
    (reached : Runs.Reached step (KeepsLock (client.formatKey key) token) acquired s) : s.Owned (client.formatKey key) token := by
  apply HeldBy.owned
  refine Runs.reached_invariant step _ (HeldBy (client.formatKey key) token) acquired s ?_
    (fun before action after held keeps taken => held_step _ token before after action held keeps taken) reached
  rcases try_acquire_cases client none key timeout before random with ⟨_, refused⟩ | ⟨_, entry, live, put, returned⟩
  · rw [ok] at refused
    exact absurd rfl (refused token)
  · rw [ok] at put returned
    rw [show acquired = _ from put]
    exact ⟨entry, get_put_live before _ entry live, returned token rfl⟩

def contested : List LockAction :=
  [.call defaultLockConfig (.tryAcquire "world" 0 (.ok (Vector.replicate 16 2))) none,
    .call defaultLockConfig (.release "world" "stale") none, .elapse 29000,
    .call defaultLockConfig (.refresh "world" (hexText (List.replicate 16 1)) 0) none, .elapse 29000,
    .call defaultLockConfig (.refresh "world" "stale" 0) (some ⟨"i/o timeout", true⟩)]

theorem contested_lock_stays_owned :
    ∃ acquired s, defaultLockConfig.tryAcquire (.ok (Vector.replicate 16 1)) none "world" 0 ⟨0, ∅⟩ =
        (.ok (some (hexText (List.replicate 16 1))), acquired) ∧
      Runs.run step acquired contested = some s ∧ s.now = 58000 ∧ s.Owned "lock:world" (hexText (List.replicate 16 1)) := by
  have answered : (defaultLockConfig.tryAcquire (.ok (Vector.replicate 16 1)) none "world" 0 ⟨0, ∅⟩).1 =
      .ok (some (hexText (List.replicate 16 1))) := by
    decide +kernel
  have observed : (Runs.run step (defaultLockConfig.tryAcquire (.ok (Vector.replicate 16 1)) none "world" 0 ⟨0, ∅⟩).2 contested).map
      Store.now = some 58000 := by
    decide +kernel
  have keeps : Runs.RunMeets step (KeepsLock "lock:world" (hexText (List.replicate 16 1)))
      (defaultLockConfig.tryAcquire (.ok (Vector.replicate 16 1)) none "world" 0 ⟨0, ∅⟩).2 contested := by
    decide +kernel
  obtain ⟨s, ran, time⟩ := Option.map_eq_some_iff.mp observed
  refine ⟨_, s, Prod.ext answered rfl, ran, time, ?_⟩
  exact lock_owned_until_released defaultLockConfig "world" _ 0 (.ok (Vector.replicate 16 1)) ⟨0, ∅⟩ _ s (Prod.ext answered rfl)
    (Runs.reached_of_run step _ _ _ s contested .start keeps ran)

end Store

end MmoServer.Redis
