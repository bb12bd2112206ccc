import MmoServer.Db.FlushEffects

set_option autoImplicit false

namespace MmoServer.Db

variable {V : Type}

namespace CacheSync

theorem exec_all_answered (commands : List (Command V)) (outcomes : List ExecOutcome) (cs : CacheSync V)
    (answered : ∀ outcome ∈ outcomes, outcome = .ok) :
    ∃ rest, (∀ outcome ∈ rest, outcome = .ok) ∧
      cs.execAll commands outcomes = (.ok (), rest, { cs with log := cs.log ++ commands }) := by
  induction commands generalizing outcomes cs with
  | nil => exact ⟨outcomes, answered, by simp [execAll]⟩
  | cons command later ih =>
    have first : outcomes.headD .ok = .ok := by
      cases outcomes with
      | nil => rfl
      | cons head _ => exact answered head List.mem_cons_self
    obtain ⟨rest, restAnswered, executed⟩ := ih outcomes.tail { cs with log := cs.log ++ [command] }
      fun outcome member => answered outcome (List.mem_of_mem_tail member)
    refine ⟨rest, restAnswered, ?_⟩
    rw [execAll, first]
    simp [Command.verdict, executed]

theorem flush_batches_answered (batches : List (Batch V)) (outcomes : List ExecOutcome) (errs : List String) (cs : CacheSync V)
    (answered : ∀ outcome ∈ outcomes, outcome = .ok) :
    ∃ after, cs.flushBatches batches outcomes errs = (errs, after) ∧ after.log = cs.log ++ batches.flatMap Batch.commands ∧
      ∀ key, after.dirtyEntries.lookup key =
        if key ∈ (batches.flatMap Batch.entries).map DirtyEntry.key then none else cs.dirtyEntries.lookup key := by
  induction batches generalizing outcomes cs with
  | nil => exact ⟨cs, rfl, by simp, by simp⟩
  | cons batch later ih =>
    obtain ⟨rest, restAnswered, executed⟩ := exec_all_answered batch.commands outcomes cs answered
    obtain ⟨after, flushed, log, dirty⟩ := ih rest
      (removeFlushed batch.entries { cs with log := cs.log ++ batch.commands }) restAnswered
    refine ⟨after, ?_, ?_, ?_⟩
    · rw [flushBatches, flushBatch, executed]
      exact flushed
    · rw [log]
      simp [removeFlushed]
    · intro key
      rw [dirty, lookup_removed, List.flatMap_cons, List.map_append]
      by_cases here : key ∈ batch.entries.map DirtyEntry.key <;>
        by_cases there : key ∈ (later.flatMap Batch.entries).map DirtyEntry.key <;> simp only [here, there, List.mem_append,
          if_true, if_false, or_true, or_false]

theorem flush_answered (env : Env V) (cs : CacheSync V) (answered : ∀ outcome ∈ env.outcomes, outcome = .ok)
    (fits : cs.BatchesFit) :
    ∃ batches, Planned env.orders (cs.selectEntries env.orders.dirty).1 batches ∧
      (batches.flatMap Batch.entries).Perm (cs.selectEntries env.orders.dirty).1 ∧ (cs.flush env).1 = .ok ∧
      (cs.flush env).2.log = cs.log ++ batches.flatMap Batch.commands ∧
      ∀ key, (cs.flush env).2.dirtyEntries.lookup key =
        if key ∈ (cs.selectEntries env.orders.dirty).1.map DirtyEntry.key then none
        else (cs.selectEntries env.orders.dirty).2.dirtyEntries.lookup key := by
  have config : (cs.selectEntries env.orders.dirty).2.config = cs.config := rfl
  simp only [flush]
  split
  · have none : (cs.selectEntries env.orders.dirty).1 = [] := List.length_eq_zero_iff.mp ‹_›
    refine ⟨[], ⟨List.nil_subperm, by simp⟩, by rw [none]; rfl, rfl, ?_, ?_⟩
    · simp [selectEntries]
    · intro key
      simp [none]
  · rename_i filled
    obtain ⟨batches, plan, cover⟩ := plan_flush_fits env.orders cs.config.batchSize (cs.selectEntries env.orders.dirty).1
      (fun none => filled (by rw [none]; rfl)) (fits.selected env.orders.dirty)
    obtain ⟨after, flushed, log, dirty⟩ := flush_batches_answered batches env.outcomes []
      (cs.selectEntries env.orders.dirty).2 answered
    simp only [config, plan, flushed]
    refine ⟨batches, plan_flush_some _ _ _ _ plan, cover, trivial, log, ?_⟩
    intro key
    rw [show (noteFlush _ after).dirtyEntries = after.dirtyEntries from rfl, dirty]
    simp only [(cover.map DirtyEntry.key).mem_iff]

theorem flush_of_eligible (env : Env V) (cs : CacheSync V) (keyed : cs.WellKeyed) (fits : cs.BatchesFit)
    (eligible : ∀ key entry, cs.dirtyEntries.lookup key = some entry → entry.status = .new)
    (answered : ∀ outcome ∈ env.outcomes, outcome = .ok) :
    (cs.flush env).1 = .ok ∧ (cs.flush env).2.dirtyEntries = ∅ ∧ ∃ commands, (cs.flush env).2.log = cs.log ++ commands ∧
      ∀ x, x ∈ commands.flatMap Command.writes ↔ ∃ key entry, cs.dirtyEntries.lookup key = some entry ∧ x = entry.write := by
  obtain ⟨batches, planned, cover, ok, log, dirty⟩ := flush_answered env cs answered fits
  refine ⟨ok, AList.eq_empty_of_lookup _ ?_, _, log, ?_⟩
  · intro key
    rw [dirty, lookup_selected]
    split
    · rfl
    · rename_i absent
      cases found : cs.dirtyEntries.lookup key with
      | none => rfl
      | some entry =>
        refine absurd (List.mem_map.mpr ⟨entry.select, ?_, ?_⟩) absent
        · exact (mem_selected _ cs _).mpr ⟨key, entry, found, eligible key entry found, rfl⟩
        · rw [select_key, keyed key entry found]
  · intro x
    rw [planned.mem_writes (selected_keys_nodup env.orders.dirty cs keyed)]
    constructor
    · rintro ⟨entry, chosen, rfl⟩
      obtain ⟨key, old, found, _, rfl⟩ := (mem_selected _ cs entry).mp (cover.mem_iff.mp chosen)
      exact ⟨key, old, found, select_write old⟩
    · rintro ⟨key, entry, found, rfl⟩
      have chosen := (mem_selected env.orders.dirty cs _).mpr ⟨key, entry, found, eligible key entry found, rfl⟩
      exact ⟨entry.select, cover.mem_iff.mpr chosen, (select_write entry).symm⟩

end CacheSync

namespace Server

structure Alone (number : Nat) (s after : Server V) (sync : CacheSync V) (task : Option (FlushTask V)) : Prop where
  sync : after.sync = sync
  task : after.tasks.lookup number = task
  others : ∀ other, other ≠ number → after.tasks.lookup other = s.tasks.lookup other
  acked : after.acked = s.acked
  next : after.next = s.next

theorem Alone.insert (number : Nat) (s : Server V) (sync : CacheSync V) (task : FlushTask V) :
    Alone number s { s with sync := sync, tasks := s.tasks.insert number task } sync (some task) :=
  ⟨rfl, by simp, fun other different => by simp [different], rfl, rfl⟩

theorem Alone.trans {number : Nat} {s middle after : Server V} {first second : CacheSync V} {one two : Option (FlushTask V)}
    (start : Alone number s middle first one) (finish : Alone number middle after second two) :
    Alone number s after second two where
  sync := finish.sync
  task := finish.task
  others other different := (finish.others other different).trans (start.others other different)
  acked := finish.acked.trans start.acked
  next := finish.next.trans start.next

variable (number : Nat) (entries : List (DirtyEntry V)) (selected : Nat)

theorem exec_all_alone (commands : List (Command V)) (outcomes : List ExecOutcome) (batches : List (Batch V))
    (errs : List String) (s : Server V) (present : s.tasks.lookup number = some ⟨⟨entries, commands⟩ :: batches, errs, selected⟩) :
    ∃ actions after, Runs.run step s actions = some after ∧
      Alone number s after (s.sync.execAll commands outcomes).2.2 (some (match (s.sync.execAll commands outcomes).1 with
        | .ok () => ⟨⟨entries, []⟩ :: batches, errs, selected⟩
        | .error err => ⟨batches, errs ++ [err], selected⟩)) := by
  induction commands generalizing outcomes s with
  | nil => exact ⟨[], s, rfl, rfl, present, fun _ _ => rfl, rfl, rfl⟩
  | cons command later ih =>
    rw [CacheSync.execAll]
    generalize outcomes.headD .ok = outcome
    cases answer : command.verdict outcome with
    | error err =>
      refine ⟨[.exec number outcome], _, ?_, Alone.insert number s s.sync _⟩
      simp [Runs.run, step, present, answer]
    | ok =>
      have first := Alone.insert number s { s.sync with log := s.sync.log ++ [command] }
        ⟨⟨entries, later⟩ :: batches, errs, selected⟩
      obtain ⟨actions, after, ran, alone⟩ := ih outcomes.tail _ first.task
      refine ⟨.exec number outcome :: actions, after, ?_, first.trans alone⟩
      simpa [Runs.run, step, present, answer] using ran

theorem flush_batches_alone (batches : List (Batch V)) (outcomes : List ExecOutcome) (errs : List String) (s : Server V)
    (present : s.tasks.lookup number = some ⟨batches, errs, selected⟩) :
    ∃ actions after, Runs.run step s actions = some after ∧
      Alone number s after (s.sync.flushBatches batches outcomes errs).2
        (some ⟨[], (s.sync.flushBatches batches outcomes errs).1, selected⟩) := by
  induction batches generalizing outcomes errs s with
  | nil => exact ⟨[], s, rfl, rfl, present, fun _ _ => rfl, rfl, rfl⟩
  | cons batch later ih =>
    obtain ⟨executing, middle, executed, first⟩ :=
      exec_all_alone number batch.entries selected batch.commands outcomes later errs s present
    rw [CacheSync.flushBatches, CacheSync.flushBatch]
    rcases outcome : s.sync.execAll batch.commands outcomes with ⟨_ | _, rest, after⟩
    · rename_i err
      rw [outcome] at first
      obtain ⟨actions, final, ran, alone⟩ := ih rest (errs ++ [err]) middle first.task
      rw [first.sync] at alone
      exact ⟨executing ++ actions, final, by rw [Runs.run_append, executed]; exact ran, first.trans alone⟩
    · rw [outcome] at first
      have removal := Alone.insert number middle (after.removeFlushed batch.entries) ⟨later, errs, selected⟩
      obtain ⟨actions, final, ran, alone⟩ := ih rest errs _ removal.task
      refine ⟨executing ++ .remove number :: actions, final, ?_, first.trans (removal.trans alone)⟩
      rw [Runs.run_append, executed, Option.bind_some, Runs.run, step, first.task, first.sync]
      exact ran

-- A Flush whose steps nothing comes between does what flush computes.
theorem flush_alone (env : Env V) (s : Server V) (fresh : s.tasks.lookup number = none) :
    ∃ actions after, Runs.run step s (.beginFlush number env.orders :: actions) = some after ∧
      Alone number s after (s.sync.flush env).2 none := by
  have begun : step s (.beginFlush number env.orders) = some (s.beginFlush number env.orders) := by rw [step, fresh]
  simp only [Runs.run, begun, Option.bind_some]
  have config : (s.sync.selectEntries env.orders.dirty).2.config = s.sync.config := rfl
  simp only [CacheSync.flush, beginFlush, config]
  split
  · exact ⟨[], _, rfl, rfl, fresh, fun _ _ => rfl, rfl, rfl⟩
  · split
    · exact ⟨[], _, rfl, rfl, fresh, fun _ _ => rfl, rfl, rfl⟩
    · rename_i batches _
      have first := Alone.insert number s (s.sync.selectEntries env.orders.dirty).2
        ⟨batches, [], (s.sync.selectEntries env.orders.dirty).1.length⟩
      obtain ⟨actions, after, ran, alone⟩ := flush_batches_alone number _ batches env.outcomes [] _ first.task
      let count := (s.sync.selectEntries env.orders.dirty).1.length
      refine ⟨actions ++ [.finish number],
        { after with sync := after.sync.noteFlush count, tasks := after.tasks.erase number }, ?_, ?_⟩
      · rw [Runs.run_append, ran, Option.bind_some, Runs.run, step, alone.task]
        rfl
      · refine ⟨?_, by simp, ?_, alone.acked, alone.next⟩
        · rw [alone.sync]
          split <;> rfl
        · intro other different
          rw [AList.lookup_erase_eq, if_neg different]
          exact (first.trans alone).others other different

end Server

end MmoServer.Db
