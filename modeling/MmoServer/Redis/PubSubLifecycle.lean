import MmoServer.Redis.PubSub

set_option autoImplicit false

namespace MmoServer.Redis.RedisPubSub

variable (ps : RedisPubSub)

-- The loops stop at the channel of the service, which is never made anew.
def Safe : Prop := ps.stopCloses ≤ 1 ∧ (ps.isRunning = true → ps.stopCloses = 0)

instance decidableSafe : Decidable ps.Safe := inferInstanceAs (Decidable (_ ∧ _))

def StartsLoop (handler : Option Nat) (names : List String) (supported : Bool) : Prop :=
  names ≠ [] ∧ handler ≠ none ∧ supported = true ∧ ps.pubsub = none ∧ ps.isRunning = false

def StartsBeforeClose : Action → Prop
  | .subscribe handler names supported _ | .psubscribe handler names supported _ =>
    ps.StartsLoop handler names supported → ps.stopCloses = 0
  | _ => True

theorem ask_safe_iff (outcome : Outcome) (failure : String) (change : Subscriptions → Subscriptions) :
    (ps.ask outcome failure change).2.Safe ↔ ps.Safe := by
  obtain ⟨held, after⟩ := ask_state ps outcome failure change
  rw [after]
  exact Iff.rfl

theorem enter_safe_iff (noNames failure : String) (handler : Option Nat) (names : List String) (supported : Bool) (outcome : Outcome)
    (register : Nat → RedisPubSub → RedisPubSub) (change : Subscriptions → Subscriptions)
    (flags : ∀ handler ps, (register handler ps).isRunning = ps.isRunning ∧ (register handler ps).stopCloses = ps.stopCloses)
    (safe : ps.Safe) :
    (ps.enter noNames failure handler names supported outcome register change).2.Safe ↔
      (ps.StartsLoop handler names supported → ps.stopCloses = 0) := by
  have asked : ∀ handler connected, ((register handler connected).ask outcome failure change).2.Safe ↔ connected.Safe := by
    intro handler connected
    rw [ask_safe_iff, Safe, (flags handler connected).1, (flags handler connected).2, Safe]
  unfold enter
  by_cases empty : names = []
  · rw [if_pos empty]
    exact iff_of_true safe fun starts => absurd empty starts.1
  · rw [if_neg empty]
    cases handler with
    | none => exact iff_of_true safe fun starts => absurd rfl starts.2.1
    | some handler =>
      cases held : ps.pubsub with
      | some subs =>
        simp only [connect, held]
        rw [asked]
        exact iff_of_true safe fun starts => nomatch held.symm.trans starts.2.2.2.1
      | none =>
        cases supported with
        | false =>
          simp only [connect, held]
          exact iff_of_true safe fun starts => nomatch starts.2.2.1
        | true =>
          simp only [connect, held, if_true]
          rw [asked]
          cases running : ps.isRunning with
          | true =>
            simp only [startMessageLoop, if_true]
            apply iff_of_true
            · exact ⟨safe.1, fun _ => safe.2 running⟩
            · exact fun starts => nomatch running.symm.trans starts.2.2.2.2
          | false =>
            simp only [startMessageLoop, Bool.false_eq_true, if_false]
            constructor
            · exact fun after _ => after.2 rfl
            · exact fun before => ⟨safe.1, fun _ => before ⟨empty, nofun, rfl, held, running⟩⟩

theorem leave_safe (failure : String) (outcome : Outcome) (change : Subscriptions → Subscriptions)
    (deregister : RedisPubSub → RedisPubSub)
    (flags : ∀ ps, (deregister ps).isRunning = ps.isRunning ∧ (deregister ps).stopCloses = ps.stopCloses) (safe : ps.Safe) :
    (ps.leave failure outcome change deregister).2.Safe := by
  rw [leave]
  cases ps.pubsub with
  | none => exact safe
  | some subs =>
    have asked := (ask_safe_iff ps outcome failure change).mpr safe
    simp only
    split
    · rename_i after answer
      rw [answer] at asked
      rw [Safe, (flags after).1, (flags after).2]
      exact asked
    · rename_i text after answer
      rw [answer] at asked
      exact asked

theorem close_safe (outcome : Outcome) (safe : ps.Safe) : (ps.close outcome).2.Safe := by
  rw [close]
  split
  · exact safe
  · rename_i running
    have unclosed : ps.stopCloses = 0 := safe.2 (Bool.not_eq_false _ ▸ running)
    rw [if_neg (not_not.mpr unclosed)]
    cases ps.pubsub with
    | none => exact ⟨le_rfl, nofun⟩
    | some subs =>
      cases outcome with
      | ok => exact ⟨le_rfl, nofun⟩
      | failed text reached => cases reached <;> exact ⟨le_rfl, nofun⟩

-- The service can be closed safely exactly when no loop is started after a Close that has
-- stopped one.
theorem loop_life_cycle_iff (actions : List Action) :
    (∀ seen ∈ Runs.visited step {} actions, seen.Safe) ↔ Runs.Meets step StartsBeforeClose {} actions := by
  apply Runs.visited_iff_meets step (fun _ => True) Safe StartsBeforeClose
  · exact fun _ _ _ => trivial
  · intro ps action _ safe
    cases action with
    | subscribe handler channels supported outcome =>
      exact enter_safe_iff ps _ _ handler channels supported outcome _ _ (fun _ _ => ⟨rfl, rfl⟩) safe
    | psubscribe handler patterns supported outcome =>
      exact enter_safe_iff ps _ _ handler patterns supported outcome _ _ (fun _ _ => ⟨rfl, rfl⟩) safe
    | unsubscribe channels outcome | punsubscribe patterns outcome =>
      exact iff_of_true (leave_safe ps _ outcome _ _ (fun _ => ⟨rfl, rfl⟩) safe) trivial
    | close outcome => exact iff_of_true (close_safe ps outcome safe) trivial
  · trivial
  · exact ⟨Nat.zero_le _, nofun⟩

def reused : List Action :=
  [.subscribe (some 0) ["chat"] true .ok, .close .ok, .subscribe (some 0) ["chat"] true .ok]

theorem reused_loop_stopped :
    let after := reused.foldl step {}
    after.isRunning = true ∧ after.stopCloses = 1 ∧ (after.step (.close .ok)).stopCloses = 2 ∧
      (after.step (.close .ok)).isRunning = true := by
  decide +kernel

end MmoServer.Redis.RedisPubSub
