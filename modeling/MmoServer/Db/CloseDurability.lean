import MmoServer.Db.CloseKept

set_option autoImplicit false

namespace MmoServer.Db

variable {V : Type}

namespace Layer

def Applied (found : List WriteID) (s : Layer V) : Prop :=
  ∀ x ∈ found, x ∈ s.server.sync.applied ∨ History.latest WriteID.entity x.entity s.deferred ≠ some x

-- Once a Close has returned nil, the deferred writes before it were applied, and
-- no later write is acknowledged.
def Durable (s : Layer V) : Prop := ∀ found, s.returned = some found → s.Applied found ∧ s.late = 0

-- The condition: Close is called once, its Flush begins while no other one is in
-- progress and with all entries eligible and in its batches, its statements are
-- answered, deferred writes keep to free entries of their entities, and none
-- comes after its return.
def Undisturbed (s : Layer V) : LayerAction V → Prop
  | .serve (.write w env) => s.returned = none ∧ s.server.ReplacesFree (.write w env)
  | .serve (.exec number outcome) => outcome ≠ .ok → ∀ call ∈ s.closing, call.1 ≠ .flushing number
  | .serve _ => True
  | .close => s.isClosed = false
  | .lastFlush _ _ => s.server.tasks.keys = [] ∧ s.server.sync.BatchesFit ∧
      ∀ entry ∈ s.server.sync.dirtyEntries.values, entry.status = .new
  | .closeReturn => True

theorem Undisturbed.free {s : Layer V} {action : Action V} (condition : s.Undisturbed (.serve action)) :
    s.server.ReplacesFree action := by
  cases action with
  | write w env => exact condition.2
  | _ => trivial

def Handed (number : Nat) (found : List WriteID) (s : Server V) : Prop :=
  ∀ key entry, s.sync.dirtyEntries.lookup key = some entry → entry.write ∈ found →
    ∃ task, s.tasks.lookup number = some task ∧ entry ∈ task.entries

variable (number : Nat) (found : List WriteID) (s : Layer V) (action : Action V) (after : Server V)

theorem step_handed (s : Server V) (action : Action V) (after : Server V) (holding : s.Holding)
    (numbered : ∀ x ∈ found, x.ticket < s.next) (answered : ∀ outcome, action = .exec number outcome → outcome = .ok)
    (taken : s.step action = some after) (handed : Handed number found s) : Handed number found after := by
  intro key entry present owed
  cases Server.step_origin s action after taken key entry present with
  | kept before =>
    obtain ⟨task, there, member⟩ := handed key entry before owed
    have own := holding.keyed key entry before
    exact Server.step_still_held s action after taken number task entry there member
      (fun outcome struck bad => absurd (answered outcome struck) bad) (own ▸ present)
  | written _ own =>
    have older := numbered entry.write owed
    rw [show entry.write.ticket = entry.ticket from rfl, own] at older
    exact absurd older (lt_irrefl _)
  | selected other orders old began before unselected chosen =>
    subst chosen
    rw [select_write] at owed
    obtain ⟨task, there, member⟩ := handed key old before owed
    exact absurd unselected ((holding.tasks number task there).carried old member).2

theorem begin_handed (orders : Orders V) (found : List WriteID) (s : Server V) (fits : s.sync.BatchesFit)
    (eligible : ∀ entry ∈ s.sync.dirtyEntries.values, entry.status = .new) : Handed number found (s.beginFlush number orders) := by
  intro key entry present _
  rw [Server.begin_flush_sync] at present
  obtain ⟨old, before, rfl⟩ := selected_origin orders.dirty s.sync key entry present
  have unselected := eligible old ((AList.mem_values _ old).mpr ⟨key, before⟩)
  exact Server.begin_flush_takes s number orders fits old.select
    ((mem_selected orders.dirty s.sync _).mpr ⟨key, old, before, unselected, rfl⟩)

structure Closing (s : Layer V) : Prop where
  kept : s.server.Kept s.deferred
  numbered : ∀ x ∈ s.deferred, x.ticket < s.server.next
  known : ∀ call ∈ s.closing, ∀ x ∈ call.2, x ∈ s.deferred
  handed : ∀ number found, s.closing = some (.flushing number, found) → Handed number found s.server
  applied : ∀ found, s.returned = some found → s.Applied found
  punctual : s.late = 0

theorem closing_start (config : CacheSyncConfig) (cache : Redis.RedisCache (EntityData V)) :
    Closing ({ server := { sync := { config := config, cache := cache } } } : Layer V) where
  kept := Server.kept_start config cache
  numbered := by simp
  known := by simp
  handed := by simp
  applied := by simp
  punctual := rfl

theorem note_deferred (taken : s.server.step action = some after) (numbered : ∀ x ∈ s.deferred, x.ticket < s.server.next) :
    (∀ x ∈ s.deferred, x ∈ (s.note action).deferred) ∧ ∀ x ∈ (s.note action).deferred, x.ticket < after.next := by
  have next := Server.step_next s.server action after taken
  cases action with
  | write w env =>
    rw [note]
    split
    · exact ⟨fun _ member => member, fun x member => (numbered x member).trans_le next⟩
    · cases taken
      split
      · exact ⟨fun _ member => member, fun x member => (numbered x member).trans_le next⟩
      · refine ⟨fun _ member => List.mem_append_left _ member, fun x member => ?_⟩
        rcases List.mem_append.mp member with old | own
        · exact (numbered x old).trans_le next
        · obtain ⟨item, _, rfl⟩ := List.mem_map.mp own
          exact Nat.lt_succ_self _
  | _ => exact ⟨fun _ member => member, fun x member => (numbered x member).trans_le next⟩

theorem note_other (condition : s.Undisturbed (.serve action)) :
    (s.note action).late = s.late ∧ (s.returned ≠ none → s.note action = s) := by
  cases action with
  | write w env =>
    refine ⟨?_, fun after => absurd condition.1 after⟩
    rw [note]
    split
    · rfl
    · simp [condition.1]
  | _ => exact ⟨rfl, fun _ => rfl⟩

theorem closing_serve (closing : s.Closing) (condition : s.Undisturbed (.serve action)) (taken : s.server.step action = some after) :
    Closing { s.note action with server := after } := by
  obtain ⟨_, _, call, back⟩ := s.note_keeps action
  obtain ⟨more, numbered⟩ := s.note_deferred action after taken closing.numbered
  obtain ⟨late, silent⟩ := s.note_other action condition
  refine ⟨s.serve_kept action after closing.kept condition.free taken, numbered, ?_, ?_, ?_, late.trans closing.punctual⟩
  · rw [call]
    exact fun stage current x member => more x (closing.known stage current x member)
  · intro number found current
    rw [call] at current
    refine step_handed number found s.server action after closing.kept.holding ?_ ?_ taken (closing.handed number found current)
    · exact fun x member => closing.numbered x (closing.known _ current x member)
    · rintro outcome rfl
      by_contra bad
      exact condition bad _ current rfl
  · intro found returned
    rw [back] at returned
    rw [silent (by simp [returned])]
    obtain ⟨commands, log⟩ := Server.step_log s.server action after taken
    intro x member
    refine (closing.applied found returned x member).imp (fun done => ?_) id
    rw [CacheSync.applied, log, List.flatMap_append]
    exact List.mem_append_left _ done

theorem applied_of_handed (kept : s.server.Kept s.deferred) (handed : Handed number found s.server)
    (done : s.server.tasks.lookup number = none) : s.Applied found := by
  intro x member
  by_cases last : History.latest WriteID.entity x.entity s.deferred = some x
  · rcases kept.clean x last with ⟨entry, present, own⟩ | applied
    · obtain ⟨task, there, _⟩ := handed _ entry present (own ▸ member)
      rw [done] at there
      cases there
    · exact .inl applied
  · exact .inr last

theorem step_closing (action : LayerAction V) (after : Layer V) (closing : s.Closing) (condition : s.Undisturbed action)
    (taken : s.step action = some after) : after.Closing := by
  cases action with
  | serve action =>
    obtain ⟨next, served, rfl⟩ := Option.map_eq_some_iff.mp taken
    exact closing_serve s action next closing condition served
  | close =>
    rw [step, if_neg (by simp [show s.isClosed = false from condition])] at taken
    cases taken
    exact ⟨closing.kept, closing.numbered, by simp, by simp, closing.applied, closing.punctual⟩
  | lastFlush number orders =>
    rw [step] at taken
    split at taken
    · rename_i found flagged fresh
      cases taken
      obtain ⟨stage, call, own⟩ := last_flush_closing number orders found s
      have begun : s.server.step (.beginFlush number orders) = some (s.server.beginFlush number orders) := by
        rw [Server.step, fresh]
      have served := closing_serve s (.beginFlush number orders) _ closing trivial begun
      refine ⟨served.kept, served.numbered, ?_, ?_, served.applied, served.punctual⟩
      · rw [call]
        intro current same
        cases same
        exact closing.known (.flagged, found) flagged
      · intro other owed current
        rw [call, Option.some_inj, Prod.mk.injEq] at current
        rw [own other current.1]
        exact begin_handed number orders owed s.server condition.2.1 condition.2.2
    · cases taken
  | closeReturn =>
    rw [step] at taken
    split at taken
    · rename_i number found current
      split at taken
      · rename_i done
        cases taken
        refine ⟨closing.kept, closing.numbered, by simp, by simp, ?_, closing.punctual⟩
        intro returned same
        cases same
        exact applied_of_handed number found s closing.kept (closing.handed number found current) done
      · cases taken
    · cases taken

theorem close_durable (config : CacheSyncConfig) (cache : Redis.RedisCache (EntityData V)) (s : Layer V)
    (reached : Runs.Reached step Undisturbed { server := { sync := { config := config, cache := cache } } } s) : s.Durable := by
  have closing := Runs.reached_invariant _ _ Closing _ s (closing_start config cache) step_closing reached
  exact fun found returned => ⟨closing.applied found returned, closing.punctual⟩

instance (s : Server V) : (action : Action V) → Decidable (s.ReplacesFree action)
  | .write w _ => inferInstanceAs (Decidable (w.immediate = false → ∀ item ∈ w.items,
      (∀ old ∈ s.sync.dirtyEntries.lookup (formatDirtyKey w.entityType item.1), old.entity = ⟨w.entityType, item.1⟩) ∧
      ∀ task ∈ s.tasks.values, ∀ entry ∈ task.entries, entry.key ≠ formatDirtyKey w.entityType item.1))
  | .beginFlush _ _ => inferInstanceAs (Decidable True)
  | .exec _ _ => inferInstanceAs (Decidable True)
  | .remove _ => inferInstanceAs (Decidable True)
  | .finish _ => inferInstanceAs (Decidable True)

instance (s : Layer V) : (action : LayerAction V) → Decidable (s.Undisturbed action)
  | .serve (.write w env) => inferInstanceAs (Decidable (s.returned = none ∧ s.server.ReplacesFree (.write w env)))
  | .serve (.exec number outcome) => inferInstanceAs (Decidable (outcome ≠ .ok → ∀ call ∈ s.closing, call.1 ≠ .flushing number))
  | .serve (.beginFlush _ _) => inferInstanceAs (Decidable True)
  | .serve (.remove _) => inferInstanceAs (Decidable True)
  | .serve (.finish _) => inferInstanceAs (Decidable True)
  | .close => inferInstanceAs (Decidable (s.isClosed = false))
  | .lastFlush _ _ => inferInstanceAs (Decidable (s.server.tasks.keys = [] ∧ s.server.sync.BatchesFit ∧
      ∀ entry ∈ s.server.sync.dirtyEntries.values, entry.status = .new))
  | .closeReturn => inferInstanceAs (Decidable True)

def savedAgainThenClosed : List (LayerAction String) :=
  [.serve (.write (.set "player" "p" (named "a") none) plainEnv), .serve (.beginFlush 0 (.listed String)),
    .serve (.exec 0 (.failed "timeout")), .serve (.finish 0),
    .serve (.write (.set "player" "p" (named "b") none) plainEnv), .close, .lastFlush 1 (.listed String),
    .serve (.exec 1 .ok), .serve (.remove 1), .serve (.finish 1), .closeReturn]

theorem second_save_survives_close :
    ∃ s, Runs.run step { server := { sync := nameSync } } savedAgainThenClosed = some s ∧
      s.returned = some [⟨⟨"player", "p"⟩, 0⟩, ⟨⟨"player", "p"⟩, 1⟩] ∧ s.server.sync.applied = [⟨⟨"player", "p"⟩, 1⟩] ∧
      s.Durable := by
  have observed : (Runs.run step { server := { sync := nameSync } } savedAgainThenClosed).map (fun s =>
      (s.returned, s.server.sync.applied)) =
        some (some [⟨⟨"player", "p"⟩, 0⟩, ⟨⟨"player", "p"⟩, 1⟩], [⟨⟨"player", "p"⟩, 1⟩]) := by
    decide +kernel
  obtain ⟨s, ran, seen⟩ := Option.map_eq_some_iff.mp observed
  obtain ⟨returned, applied⟩ := Prod.mk.inj seen
  exact ⟨s, ran, returned, applied, close_durable defaultCacheSyncConfig nameCache s
    (Runs.reached_of_run step _ _ _ s savedAgainThenClosed .start (by decide +kernel) ran)⟩

def closedOnFailure : List (LayerAction String) :=
  [.serve (.write (.set "player" "p" (named "a") none) plainEnv), .close, .lastFlush 0 (.listed String),
    .serve (.exec 0 (.failed "timeout")), .serve (.finish 0), .closeReturn,
    .serve (.write (.set "player" "q" (named "b") none) plainEnv)]

theorem closed_without_the_save :
    ∃ s, Runs.run step { server := { sync := nameSync } } closedOnFailure = some s ∧
      s.returned = some [⟨⟨"player", "p"⟩, 0⟩] ∧ s.server.sync.applied = [] ∧
      s.deferred = [⟨⟨"player", "p"⟩, 0⟩, ⟨⟨"player", "q"⟩, 1⟩] ∧ s.late = 1 ∧
      ¬ s.Applied [⟨⟨"player", "p"⟩, 0⟩] ∧ ¬ s.Durable := by
  have observed : (Runs.run step { server := { sync := nameSync } } closedOnFailure).map (fun s =>
      (s.returned, s.server.sync.applied, s.deferred, s.late)) =
        some (some [⟨⟨"player", "p"⟩, 0⟩], [], [⟨⟨"player", "p"⟩, 0⟩, ⟨⟨"player", "q"⟩, 1⟩], 1) := by
    decide +kernel
  obtain ⟨s, ran, seen⟩ := Option.map_eq_some_iff.mp observed
  obtain ⟨returned, applied, deferred, late⟩ : s.returned = some [⟨⟨"player", "p"⟩, 0⟩] ∧ s.server.sync.applied = [] ∧
      s.deferred = [⟨⟨"player", "p"⟩, 0⟩, ⟨⟨"player", "q"⟩, 1⟩] ∧ s.late = 1 := by
    simpa using seen
  have lost : ¬ s.Applied [⟨⟨"player", "p"⟩, 0⟩] := by
    intro all
    rcases all _ List.mem_cons_self with done | superseded
    · simp [applied] at done
    · rw [deferred] at superseded
      exact superseded (by decide)
  exact ⟨s, ran, returned, applied, deferred, late, lost, fun durable => lost (durable _ returned).1⟩

end Layer

end MmoServer.Db
