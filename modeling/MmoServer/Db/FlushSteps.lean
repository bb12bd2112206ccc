import MmoServer.Db.FlushEffects

set_option autoImplicit false

namespace MmoServer.Db

variable {V : Type}

namespace Server

variable (s : Server V) (action : Action V) (after : Server V)

theorem step_keyed (keyed : s.sync.WellKeyed) (taken : s.step action = some after) : after.sync.WellKeyed := by
  cases step_effect s action after taken with
  | write w env =>
    obtain ⟨_, after, _, wrote, written⟩ := write_written s w env
    rw [wrote]
    cases written with
    | immediate => exact keyed
    | refused => exact keyed
    | deferred later synced change => exact well_keyed_deferred _ w s.sync synced change keyed
  | beginFlush number orders fresh =>
    rw [begin_flush_sync]
    exact well_keyed_select orders.dirty s.sync keyed
  | removed number entries => exact well_keyed_remove entries s.sync keyed
  | _ => exact keyed

theorem step_config (taken : s.step action = some after) : after.sync.config = s.sync.config := by
  cases step_effect s action after taken with
  | write w env =>
    obtain ⟨_, after, _, wrote, written⟩ := write_written s w env
    rw [wrote]
    cases written with
    | immediate => rfl
    | refused => rfl
    | deferred later synced change => exact change.config
  | beginFlush number orders fresh =>
    rw [begin_flush_sync]
    rfl
  | _ => rfl

theorem step_log (taken : s.step action = some after) : ∃ commands, after.sync.log = s.sync.log ++ commands := by
  cases step_effect s action after taken with
  | write w env =>
    obtain ⟨_, after, _, wrote, written⟩ := write_written s w env
    rw [wrote]
    cases written with
    | immediate => exact ⟨_, rfl⟩
    | refused => exact ⟨[], by simp⟩
    | deferred later synced change => exact ⟨[], by simp [change.log]⟩
  | beginFlush number orders fresh => exact ⟨[], by simp [begin_flush_sync, CacheSync.selectEntries]⟩
  | executed => exact ⟨_, rfl⟩
  | _ => exact ⟨[], by simp [CacheSync.removeFlushed, CacheSync.noteFlush]⟩

theorem step_next (taken : s.step action = some after) : s.next ≤ after.next := by
  cases step_effect s action after taken with
  | write w env => exact Nat.le_succ _
  | beginFlush number orders fresh =>
    rcases begin_flush_cases number orders s with ⟨idle, _⟩ | ⟨_, _, begun⟩
    · rw [idle]
    · rw [begun]
  | _ => exact le_refl _

inductive Origin (s : Server V) (action : Action V) (key : String) (entry : DirtyEntry V) : Prop where
  | kept (found : s.sync.dirtyEntries.lookup key = some entry)
  | written (status : entry.status = .new) (own : entry.ticket = s.next)
  | selected (number : Nat) (orders : Orders V) (old : DirtyEntry V) (began : action = .beginFlush number orders)
      (present : s.sync.dirtyEntries.lookup key = some old) (unselected : old.status = .new) (chosen : entry = old.select)

theorem step_origin (taken : s.step action = some after) (key : String) (entry : DirtyEntry V)
    (found : after.sync.dirtyEntries.lookup key = some entry) : s.Origin action key entry := by
  cases step_effect s action after taken with
  | write w env =>
    obtain ⟨_, after, _, wrote, written⟩ := write_written s w env
    rw [wrote] at found
    cases written with
    | immediate => exact .kept found
    | refused => exact .kept found
    | deferred later synced change =>
      rcases change.origin key entry found with ⟨item, _, rfl, _⟩ | ⟨old, _⟩
      · exact .written rfl rfl
      · exact .kept old
  | beginFlush number orders fresh =>
    rw [begin_flush_sync] at found
    obtain ⟨old, present, rfl⟩ := selected_origin orders.dirty s.sync key entry found
    by_cases unselected : old.status = .new
    · exact .selected number orders old rfl present unselected rfl
    · exact .kept (by rw [select_of_selected old unselected, present])
  | removed number entries => exact .kept (removed_origin entries s.sync key entry found).1
  | _ => exact .kept found

theorem held_replace (tasks : GoMap Nat (FlushTask V)) (replaced : Nat) (old new : FlushTask V) (entry : DirtyEntry V)
    (present : tasks.lookup replaced = some old) (number : Nat) (task : FlushTask V) (found : tasks.lookup number = some task)
    (member : entry ∈ task.entries) (keeps : number = replaced → entry ∈ old.entries → entry ∈ new.entries) :
    ∃ later, (tasks.insert replaced new).lookup number = some later ∧ entry ∈ later.entries := by
  by_cases same : number = replaced
  · subst same
    rw [present, Option.some_inj] at found
    exact ⟨new, by simp, keeps rfl (found ▸ member)⟩
  · exact ⟨task, by simp [same, found], member⟩

theorem step_still_held (taken : s.step action = some after) (number : Nat) (task : FlushTask V) (entry : DirtyEntry V)
    (present : s.tasks.lookup number = some task) (member : entry ∈ task.entries)
    (spared : ∀ outcome, action = .exec number outcome → outcome ≠ .ok → ∀ batch ∈ task.batches.head?, entry ∉ batch.entries)
    (still : after.sync.dirtyEntries.lookup entry.key = some entry) :
    ∃ later, after.tasks.lookup number = some later ∧ entry ∈ later.entries := by
  cases step_effect s action after taken with
  | write w env => exact ⟨task, present, member⟩
  | beginFlush other orders fresh =>
    rcases begin_flush_cases other orders s with ⟨idle, _⟩ | ⟨batches, plan, begun⟩
    · rw [idle]
      exact ⟨task, present, member⟩
    · have different : number ≠ other := by
        rintro rfl
        rw [fresh] at present
        cases present
      rw [begun]
      exact ⟨task, by simp [different, present], member⟩
  | executed other entries command commands batches errs selected there =>
    exact held_replace s.tasks other _ ⟨⟨entries, commands⟩ :: batches, errs, selected⟩ entry there number task present member
      fun _ inTask => inTask
  | failed other outcome err entries command commands batches errs selected there bad =>
    refine held_replace s.tasks other _ ⟨batches, errs ++ [err], selected⟩ entry there number task present member ?_
    rintro rfl inTask
    rw [there, Option.some_inj] at present
    subst present
    rcases List.mem_append.mp inTask with struck | later
    · exact absurd struck (spared outcome rfl bad _ rfl)
    · exact later
  | removed other entries batches errs selected there =>
    refine held_replace s.tasks other _ ⟨batches, errs, selected⟩ entry there number task present member ?_
    intro _ inTask
    rcases List.mem_append.mp inTask with gone | later
    · exact absurd (List.mem_map_of_mem gone) (removed_origin entries s.sync entry.key entry still).2
    · exact later
  | finished other errs selected there =>
    have different : number ≠ other := by
      rintro rfl
      rw [there, Option.some_inj] at present
      simp [← present, FlushTask.entries] at member
    exact ⟨task, by simp [different, present], member⟩

theorem begin_flush_takes (number : Nat) (orders : Orders V) (fits : s.sync.BatchesFit) (entry : DirtyEntry V)
    (chosen : entry ∈ (s.sync.selectEntries orders.dirty).1) :
    ∃ task, (s.beginFlush number orders).tasks.lookup number = some task ∧ entry ∈ task.entries := by
  obtain ⟨batches, plan, cover⟩ := plan_flush_fits orders s.sync.config.batchSize (s.sync.selectEntries orders.dirty).1
    (List.ne_nil_of_mem chosen) (fits.selected orders.dirty)
  rcases begin_flush_cases number orders s with ⟨_, none | panics⟩ | ⟨_, same, begun⟩
  · simp [none] at chosen
  · rw [plan] at panics
    cases panics
  · rw [plan, Option.some_inj] at same
    subst same
    rw [begun]
    exact ⟨_, AList.lookup_insert _, cover.mem_iff.mpr chosen⟩

end Server

end MmoServer.Db
