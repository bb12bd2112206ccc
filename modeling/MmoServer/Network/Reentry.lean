import MmoServer.Lib.Slots
import MmoServer.Network.NestedClose

set_option autoImplicit false

namespace MmoServer.Network

namespace System

variable (s : System)

structure Invariant : Prop where
  sound : s.server.Sound
  holds : ∀ (g : Nat) goroutine, s.goroutines[g]? = some goroutine → s.server.Holds g goroutine.phase
  started : ∀ g, s.server.Locked g → g < s.goroutines.length
  closes : ∀ goroutine ∈ s.goroutines, goroutine.closes ≠ [] → goroutine.phase.Nested

-- The goroutine waits for the lock of the table, or will when it has the one of the client,
-- and already holds it.
def Reenters (g : Nat) : Prop := ∃ goroutine, s.goroutines[g]? = some goroutine ∧ goroutine.phase.Acquires ∧ s.server.Locked g

def Spares : Action → Prop
  | .step g _ => ∀ goroutine ∈ s.goroutines[g]?, s.server.Spares goroutine.phase
  | _ => True

theorem reenters_iff (g : Nat) (inv : s.Invariant) : s.Reenters g ↔ ∃ goroutine, s.goroutines[g]? = some goroutine ∧ goroutine.phase.Nested := by
  apply exists_congr
  intro goroutine
  apply and_congr_right
  exact fun found => s.server.reenters_iff_nested g goroutine.phase (inv.holds g goroutine found)

theorem never_reenters_iff (inv : s.Invariant) : (∀ g, ¬ s.Reenters g) ↔ ∀ goroutine ∈ s.goroutines, ¬ goroutine.phase.Nested := by
  simp only [reenters_iff s _ inv, List.mem_iff_getElem?]
  grind

section Keeping

theorem keeps_server (server : Server) (inv : s.Invariant) (sound : server.Sound) (frames : ∀ g, s.server.Frames server g) :
    ({ s with server } : System).Invariant where
  sound := sound
  holds g goroutine found := s.server.holds_frame server g goroutine.phase (frames g) (inv.holds g goroutine found)
  started g locked := inv.started g ((frames g).locked locked)
  closes := inv.closes

theorem keeps_goroutine (goroutine : Goroutine) (inv : s.Invariant) (none_ : goroutine.closes = [])
    (holds : ∀ g, ¬ s.server.Locked g → s.server.Holds g goroutine.phase) :
    ({ s with goroutines := s.goroutines ++ [goroutine] } : System).Invariant where
  sound := inv.sound
  holds g other found := by
    rcases Slots.look_appended s.goroutines g goroutine other found with old | ⟨beyond, rfl⟩
    · exact inv.holds g other old
    · exact holds g fun locked => absurd (inv.started g locked) (Nat.not_lt.mpr beyond)
  started g locked := by
    rw [List.length_append]
    exact Nat.lt_add_right _ (inv.started g locked)
  closes other member some_ := by
    rcases List.mem_append.mp member with old | new
    · exact inv.closes other old some_
    · rw [List.mem_singleton.mp new] at some_
      exact absurd none_ some_

theorem keeps_update (ref : Nat) (change : Client → Client) (inv : s.Invariant) (id : ∀ client, (change client).id = client.id)
    (opens : ∀ client, Server.Open client → Server.Open (change client)) : (s.update ref change).Invariant := by
  apply keeps_server s _ inv
  · apply s.server.sound_heap _ inv.sound (by rfl) (by rfl)
    intro at_ client found stays
    simp only [List.getElem?_modify, found]
    refine ⟨_, rfl, ?_⟩
    split
    · exact ⟨id client, opens client stays⟩
    · exact ⟨rfl, stays⟩
  · exact fun g => s.server.frames_same _ g rfl rfl

theorem keeps_connect (id : String) (now : Nat) (inv : s.Invariant) : (s.step (.connect id now)).Invariant := by
  rw [step]
  split
  · rename_i free
    apply keeps_server s _ inv
    · refine ⟨inv.sound.exclusive, inv.sound.once, ?_⟩
      intro sought ref found
      rw [AList.lookup_insert_eq] at found
      split at found
      · rename_i here
        cases found
        exact ⟨_, List.getElem?_concat_length, here.symm, nofun⟩
      · obtain ⟨client, its, own⟩ := inv.sound.known sought ref found
        exact ⟨client, Slots.look_kept _ _ ref client its, own⟩
    · exact fun g => s.server.frames_free _ g (s.server.free_not_locked g free) (Server.free_not_locked _ g free)
  · exact inv

theorem keeps_apply (g : Nat) (order : Shuffle (String × Nat)) (goroutine : Goroutine) (moved : Server × Phase) (inv : s.Invariant)
    (found : s.goroutines[g]? = some goroutine) (acted : s.server.act g order goroutine.phase = some moved) :
    (s.apply g goroutine moved).Invariant := by
  have holds := inv.holds g goroutine found
  have keeps := s.server.keeps_act g order goroutine.phase moved inv.sound holds acted
  have bound := (List.getElem?_eq_some_iff.mp found).1
  constructor
  · exact keeps.sound
  · intro other its at_
    rw [apply, List.getElem?_set] at at_
    split at at_
    · rename_i here
      subst here
      cases at_
      exact keeps.own
    · rename_i elsewhere
      exact s.server.holds_frame _ other its.phase (keeps.others other (Ne.symm elsewhere)) (inv.holds other its at_)
  · intro other locked
    rw [apply, List.length_set]
    by_cases here : other = g
    · rwa [here]
    · exact inv.started other ((keeps.others other here).locked locked)
  · intro other member some_
    rcases List.mem_or_eq_of_mem_set member with old | rfl
    · exact inv.closes other old some_
    · by_cases before : goroutine.closes = []
      · rw [before, List.nil_append] at some_
        revert some_
        cases moved.2 with
        | closing ref caller => cases caller <;> simp [Phase.calls, Phase.Nested]
        | starting | looping | relocking | removing | done => simp [Phase.calls]
      · have nested := inv.closes goroutine (List.mem_of_getElem? found) before
        exact (s.server.act_nested_iff g order goroutine.phase moved inv.sound holds acted).mpr (.inl nested)

theorem keeps_step (action : Action) (inv : s.Invariant) : (s.step action).Invariant := by
  cases action with
  | connect id now => exact keeps_connect s id now inv
  | pong ref now | sendMessage ref message => exact keeps_update s ref _ inv (fun _ => rfl) fun _ opens => opens
  | writePump ref =>
    apply keeps_update s ref _ inv
    · intro client
      split <;> rfl
    · intro client opens
      split <;> exact opens
  | close ref | call op => exact keeps_goroutine s _ inv rfl fun g free => free
  | step g order =>
    cases found : s.goroutines[g]? with
    | none => simpa only [step, found] using inv
    | some goroutine =>
      cases acted : s.server.act g order goroutine.phase with
      | none => simpa only [step, found, acted] using inv
      | some moved =>
        simp only [step, found, acted]
        exact keeps_apply s g order goroutine moved inv found acted

end Keeping

section Runs

variable (action : Action) (g : Nat) (order : Shuffle (String × Nat)) (goroutine : Goroutine)

theorem added_spares_iff (action : Action) (outside : ¬ goroutine.phase.Nested)
    (added : (s.step action).goroutines = s.goroutines ++ [goroutine]) (spared : ∀ goroutine ∈ s.goroutines, ¬ goroutine.phase.Nested)
    (spares : s.Spares action) : (∀ goroutine ∈ (s.step action).goroutines, ¬ goroutine.phase.Nested) ↔ s.Spares action := by
  apply iff_of_true _ spares
  rw [added, List.forall_mem_append, List.forall_mem_singleton]
  exact ⟨spared, outside⟩

theorem apply_spares_iff (moved : Server × Phase) (inv : s.Invariant) (found : s.goroutines[g]? = some goroutine)
    (acted : s.server.act g order goroutine.phase = some moved) (spared : ∀ goroutine ∈ s.goroutines, ¬ goroutine.phase.Nested) :
    (∀ other ∈ (s.apply g goroutine moved).goroutines, ¬ other.phase.Nested) ↔ s.server.Spares goroutine.phase := by
  have outside := spared goroutine (List.mem_of_getElem? found)
  have nested := s.server.act_nested_iff g order goroutine.phase moved inv.sound (inv.holds g goroutine found) acted
  rw [apply, Slots.forall_set_iff (fun other => ¬ other.phase.Nested) s.goroutines g goroutine _ found spared, nested, not_or, not_not]
  exact and_iff_right outside

theorem step_spares_iff (inv : s.Invariant) (spared : ∀ g, ¬ s.Reenters g) :
    (∀ g, ¬ (s.step action).Reenters g) ↔ s.Spares action := by
  rw [never_reenters_iff _ (keeps_step s action inv)]
  rw [never_reenters_iff s inv] at spared
  cases action with
  | connect id now =>
    apply iff_of_true _ trivial
    rw [step]
    split <;> exact spared
  | pong | sendMessage | writePump => exact iff_of_true spared trivial
  | close ref => exact added_spares_iff s _ (.close ref) id rfl spared trivial
  | call op => exact added_spares_iff s _ (.call op) id rfl spared trivial
  | step g order =>
    cases found : s.goroutines[g]? with
    | none => simpa [step, Spares, found] using spared
    | some goroutine =>
      simp only [Spares, found, Option.mem_some, forall_eq']
      cases acted : s.server.act g order goroutine.phase with
      | none =>
        simp only [step, found, acted]
        exact iff_of_true spared (s.server.blocked_spares g order goroutine.phase acted)
      | some moved =>
        simp only [step, found, acted]
        exact apply_spares_iff s g order goroutine moved inv found acted spared

theorem step_goroutine (found : s.goroutines[g]? = some goroutine) :
    (s.step action).goroutines[g]? = some goroutine ∨ ∃ order moved, action = .step g order ∧
      s.server.act g order goroutine.phase = some moved ∧ (s.step action).goroutines[g]? =
        some { goroutine with phase := moved.2, closes := goroutine.closes ++ moved.2.calls } := by
  have bound := (List.getElem?_eq_some_iff.mp found).1
  cases action with
  | connect id now =>
    apply Or.inl
    rw [step]
    split <;> exact found
  | pong | sendMessage | writePump => exact .inl found
  | close | call => exact .inl (Slots.look_kept _ _ g goroutine found)
  | step at_ order =>
    by_cases here : at_ = g
    · subst here
      cases acted : s.server.act at_ order goroutine.phase with
      | none => exact .inl (by simp only [step, found, acted])
      | some moved => exact .inr ⟨order, moved, rfl, acted, by simp only [step, found, acted, apply, List.getElem?_set_self bound]⟩
    · apply Or.inl
      rw [step]
      split
      · exact found
      · split
        · exact found
        · rwa [apply, List.getElem?_set_ne here]

theorem reenters_step (inv : s.Invariant) (reenters : s.Reenters g) : (s.step action).Reenters g := by
  obtain ⟨goroutine, found, nested⟩ := (reenters_iff s g inv).mp reenters
  apply (reenters_iff _ g (keeps_step s action inv)).mpr
  rcases step_goroutine s action g goroutine found with same | ⟨order, moved, -, acted, after⟩
  · exact ⟨goroutine, same, nested⟩
  · have nests := s.server.act_nested_iff g order goroutine.phase moved inv.sound (inv.holds g goroutine found) acted
    exact ⟨_, after, nests.mpr (.inl nested)⟩

theorem reenters_run (later : List Action) (g : Nat) (inv : s.Invariant) (reenters : s.Reenters g) : (later.foldl step s).Reenters g := by
  induction later generalizing s with
  | nil => exact reenters
  | cons action rest ih => exact ih (s.step action) (keeps_step s action inv) (reenters_step s action g inv reenters)

theorem loop_step (op : Operation) (rest : List (String × Nat)) (inv : s.Invariant) (found : s.goroutines[g]? = some goroutine)
    (looping : goroutine.phase = .looping op rest) :
    (s.step (.step g order)).Reenters g ∨
      ∃ passed, (s.step (.step g order)).goroutines[g]? = some passed ∧ passed.phase = .passed op rest := by
  have holds := inv.holds g goroutine found
  rw [looping] at holds
  obtain ⟨moved, acted, goes⟩ := s.server.act_looping g order op rest inv.sound holds
  have after : (s.step (.step g order)).goroutines[g]? =
      some { goroutine with phase := moved.2, closes := goroutine.closes ++ moved.2.calls } := by
    simp only [step, found, looping, acted, apply, List.getElem?_set_self (List.getElem?_eq_some_iff.mp found).1]
  rcases goes with nested | passed
  · exact .inl ((reenters_iff _ g (keeps_step s (.step g order) inv)).mpr ⟨_, after, nested⟩)
  · exact .inr ⟨_, after, passed⟩

def Finishes (g : Nat) : Prop := ∃ last, s.goroutines[g]? = some last ∧ last.phase = .done

-- A loop comes to its end by its own steps alone, one for each entry and one to unlock,
-- unless it has a client to close.
theorem loop_finishes (op : Operation) (rest : List (String × Nat)) (inv : s.Invariant) (found : s.goroutines[g]? = some goroutine)
    (looping : goroutine.phase = .looping op rest) :
    ((List.replicate (rest.length + 1) (.step g order)).foldl step s).Reenters g ∨
      ((List.replicate (rest.length + 1) (.step g order)).foldl step s).Finishes g := by
  have next := keeps_step s (.step g order) inv
  induction rest generalizing s goroutine with
  | nil => exact loop_step s g order goroutine op [] inv found looping
  | cons entry rest ih =>
    rw [List.replicate_succ, List.foldl_cons]
    rcases loop_step s g order goroutine op (entry :: rest) inv found looping with reenters | ⟨passed, here, goes_on⟩
    · exact .inl (reenters_run _ _ g next reenters)
    · exact ih (s.step (.step g order)) passed next here goes_on (keeps_step _ (.step g order) next)

end Runs

theorem start_invariant (heartbeatIntervalSec : Nat) : (start heartbeatIntervalSec).Invariant := by
  constructor
  · exact ⟨fun _ => rfl, List.nodup_nil, nofun⟩
  · exact nofun
  · exact nofun
  · exact nofun

-- No operation gets to the lock of the table a second time exactly when none meets a client
-- to close. One that does stays there, one that has ended has closed nobody, and one that
-- goes over the table ends in one of the two ways.
theorem clients_lock_reentered_iff (heartbeatIntervalSec : Nat) (actions : List Action) :
    ((∀ seen ∈ Runs.visited step (start heartbeatIntervalSec) actions, ∀ g, ¬ seen.Reenters g) ↔
      Runs.Meets step Spares (start heartbeatIntervalSec) actions) ∧
    ∀ seen ∈ Runs.visited step (start heartbeatIntervalSec) actions, ∀ (g : Nat) goroutine, seen.goroutines[g]? = some goroutine →
      (seen.Reenters g → ∀ later : List Action, (later.foldl step seen).Reenters g) ∧
      (goroutine.phase = .done → goroutine.closes = []) ∧
      ∀ op rest order, goroutine.phase = .looping op rest →
        ((List.replicate (rest.length + 1) (.step g order)).foldl step seen).Reenters g ∨
          ((List.replicate (rest.length + 1) (.step g order)).foldl step seen).Finishes g := by
  constructor
  · apply Runs.visited_iff_meets step Invariant (fun seen => ∀ g, ¬ seen.Reenters g) Spares
    · exact keeps_step
    · exact step_spares_iff
    · exact start_invariant heartbeatIntervalSec
    · exact nofun
  · intro seen member g goroutine found
    have inv : seen.Invariant := Runs.visited_invariant step Invariant (fun _ _ => True) (fun s action inv _ => keeps_step s action inv) _
      actions (start_invariant heartbeatIntervalSec) (Runs.meets_free step _ actions) seen member
    refine ⟨fun reenters later => reenters_run seen later g inv reenters, ?_, ?_⟩
    · intro done
      by_contra some_
      have nested := inv.closes goroutine (List.mem_of_getElem? found) some_
      rw [done] at nested
      exact nested
    · exact fun op rest order looping => loop_finishes seen g order goroutine op rest inv found looping

def oneLateClient : List Action :=
  [.connect "1" 0, .call (.checkHeartbeats 60000000001), .step 0 .listed, .step 0 .listed, .step 0 .listed]

theorem late_client_stops_server :
    (oneLateClient.foldl step (start 30)).goroutines.map Goroutine.phase =
      [.relocking 0 (some ⟨.checkHeartbeats 60000000001, "1", []⟩)] ∧
    (oneLateClient.foldl step (start 30)).server.clientsLock.writer = some 0 ∧
    (oneLateClient.foldl step (start 30)).server.clientsLock.lock 0 = none ∧
    (oneLateClient.foldl step (start 30)).server.clients.lookup "1" = some 0 ∧
    (oneLateClient.foldl step (start 30)).server.heap.map Client.closed = [true] := by
  decide +kernel

end System

end MmoServer.Network
