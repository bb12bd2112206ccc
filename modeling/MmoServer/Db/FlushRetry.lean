import MmoServer.Db.FlushOutcome
import MmoServer.Db.FlushSteps

set_option autoImplicit false

namespace MmoServer.Db

variable {V : Type}

namespace Server

-- The condition: the batches of a Flush hold all it selects, and a failure
-- strikes a batch whose entries have all been replaced.
def FailsReplaced (s : Server V) : Action V → Prop
  | .beginFlush _ _ => s.sync.BatchesFit
  | .exec number outcome => outcome ≠ .ok → ∀ task ∈ s.tasks.lookup number, ∀ batch ∈ task.batches.head?,
      ∀ entry ∈ batch.entries, ∀ stored ∈ s.sync.dirtyEntries.lookup entry.key, stored.write ≠ entry.write
  | _ => True

structure InHand (s : Server V) : Prop where
  keyed : s.sync.WellKeyed
  held : ∀ key entry, s.sync.dirtyEntries.lookup key = some entry → entry.status ≠ .new →
    ∃ number task, s.tasks.lookup number = some task ∧ entry ∈ task.entries

theorem in_hand_start (config : CacheSyncConfig) (cache : Redis.RedisCache (EntityData V)) :
    InHand { sync := { config := config, cache := cache } } where
  keyed := by intro key entry found; simp at found
  held := by intro key entry found; simp at found

theorem step_in_hand (s : Server V) (action : Action V) (after : Server V) (inHand : s.InHand)
    (condition : s.FailsReplaced action) (taken : s.step action = some after) : after.InHand := by
  refine ⟨step_keyed s action after inHand.keyed taken, ?_⟩
  intro key entry found status
  cases step_origin s action after taken key entry found with
  | kept before =>
    obtain ⟨number, task, present, member⟩ := inHand.held key entry before status
    have own := inHand.keyed key entry before
    obtain ⟨later, still, inLater⟩ := step_still_held s action after taken number task entry present member
      (by
        rintro outcome rfl bad batch first struck
        exact condition bad task present batch first entry struck entry (own ▸ before) rfl)
      (own ▸ found)
    exact ⟨number, later, still, inLater⟩
  | written fresh => exact absurd fresh status
  | selected number orders old began present unselected chosen =>
    subst began chosen
    cases step_effect s _ after taken with
    | beginFlush _ _ fresh =>
      obtain ⟨task, held, member⟩ := begin_flush_takes s number orders condition old.select
        ((mem_selected orders.dirty s.sync _).mpr ⟨key, old, present, unselected, rfl⟩)
      exact ⟨number, task, held, member⟩

theorem failed_flush_retried (config : CacheSyncConfig) (cache : Redis.RedisCache (EntityData V)) (s : Server V)
    (reached : Runs.Reached step FailsReplaced { sync := { config := config, cache := cache } } s) (idle : s.tasks = ∅) :
    (∀ key entry, s.sync.dirtyEntries.lookup key = some entry → entry.status = .new) ∧
      (s.sync.BatchesFit → ∀ env : Env V, (∀ outcome ∈ env.outcomes, outcome = .ok) →
        (s.sync.flush env).1 = .ok ∧ (s.sync.flush env).2.dirtyEntries = ∅ ∧
          ∃ commands, (s.sync.flush env).2.log = s.sync.log ++ commands ∧
            ∀ x, x ∈ commands.flatMap Command.writes ↔
              ∃ key entry, s.sync.dirtyEntries.lookup key = some entry ∧ x = entry.write) := by
  have inHand := Runs.reached_invariant _ _ InHand _ s (in_hand_start config cache) step_in_hand reached
  have eligible : ∀ key entry, s.sync.dirtyEntries.lookup key = some entry → entry.status = .new := by
    intro key entry found
    by_contra selected
    obtain ⟨number, task, present, _⟩ := inHand.held key entry found selected
    simp [idle] at present
  exact ⟨eligible, fun fits env => CacheSync.flush_of_eligible env s.sync inHand.keyed fits eligible⟩

instance (s : Server V) : (action : Action V) → Decidable (s.FailsReplaced action)
  | .write _ _ => inferInstanceAs (Decidable True)
  | .beginFlush _ _ => inferInstanceAs (Decidable s.sync.BatchesFit)
  | .exec number outcome => inferInstanceAs (Decidable (outcome ≠ .ok → ∀ task ∈ s.tasks.lookup number,
      ∀ batch ∈ task.batches.head?, ∀ entry ∈ batch.entries, ∀ stored ∈ s.sync.dirtyEntries.lookup entry.key,
        stored.write ≠ entry.write))
  | .remove _ => inferInstanceAs (Decidable True)
  | .finish _ => inferInstanceAs (Decidable True)

def failedAfterReplacement : List (Action String) :=
  [.write (.set "player" "p" (named "a") none) plainEnv, .beginFlush 0 (.listed String),
    .write (.set "player" "p" (named "b") none) plainEnv, .exec 0 (.failed "timeout"), .finish 0]

theorem replaced_entry_flushed_later :
    ∃ s, Runs.run step { sync := nameSync } failedAfterReplacement = some s ∧ s.tasks = ∅ ∧
      s.sync.dirtyEntries.keys = ["player:p"] ∧ s.sync.applied = [] ∧ (s.sync.flush plainEnv).1 = .ok ∧
      (s.sync.flush plainEnv).2.dirtyEntries = ∅ := by
  have observed : (Runs.run step { sync := nameSync } failedAfterReplacement).map (fun s =>
      (s.tasks.keys, s.sync.dirtyEntries.keys, s.sync.applied, decide s.sync.BatchesFit)) = some ([], ["player:p"], [], true) := by
    decide +kernel
  obtain ⟨s, ran, seen⟩ := Option.map_eq_some_iff.mp observed
  obtain ⟨idle, dirty, applied, fits⟩ : s.tasks.keys = [] ∧ s.sync.dirtyEntries.keys = _ ∧ s.sync.applied = [] ∧ s.sync.BatchesFit := by
    simpa using seen
  have finished : s.tasks = ∅ := AList.ext (List.map_eq_nil_iff.mp idle)
  have retried := (failed_flush_retried defaultCacheSyncConfig nameCache s
    (Runs.reached_of_run step _ _ _ s failedAfterReplacement .start (by decide +kernel) ran) finished).2 fits plainEnv
    (by simp [plainEnv])
  exact ⟨s, ran, finished, dirty, applied, retried.1, retried.2.1⟩

def failedOnce : List (Action String) :=
  [.write (.set "player" "p" (named "a") none) plainEnv, .beginFlush 0 (.listed String), .exec 0 (.failed "timeout"), .finish 0]

theorem failed_entry_never_flushed :
    ∃ s, Runs.run step { sync := nameSync } failedOnce = some s ∧ s.tasks = ∅ ∧
      (∃ entry, s.sync.dirtyEntries.lookup "player:p" = some entry ∧ entry.status = .pending) ∧
      (s.sync.flush plainEnv).1 = .ok ∧ (s.sync.flush plainEnv).2.applied = [] ∧
      (s.sync.flush plainEnv).2.dirtyEntries.keys = ["player:p"] := by
  have observed : (Runs.run step { sync := nameSync } failedOnce).map (fun s =>
      (s.tasks.keys, (s.sync.dirtyEntries.lookup "player:p").map DirtyEntry.status)) = some ([], some .pending) := by
    decide +kernel
  have flushed : (Runs.run step { sync := nameSync } failedOnce).map (fun s => ((s.sync.flush plainEnv).1,
      (s.sync.flush plainEnv).2.applied, (s.sync.flush plainEnv).2.dirtyEntries.keys)) = some (.ok, [], ["player:p"]) := by
    decide +kernel
  obtain ⟨s, ran, seen⟩ := Option.map_eq_some_iff.mp observed
  rw [ran, Option.map_some, Option.some_inj, Prod.mk.injEq, Prod.mk.injEq] at flushed
  obtain ⟨idle, stuck⟩ : s.tasks.keys = [] ∧
      ∃ entry, s.sync.dirtyEntries.lookup "player:p" = some entry ∧ entry.status = .pending := by simpa using seen
  exact ⟨s, ran, AList.ext (List.map_eq_nil_iff.mp idle), stuck, flushed⟩

end Server

end MmoServer.Db
