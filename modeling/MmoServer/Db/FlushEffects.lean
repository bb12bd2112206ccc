import MmoServer.Db.FlushPlan

set_option autoImplicit false

namespace MmoServer.Db

variable {V : Type}

namespace Server

variable (number : Nat) (orders : Orders V) (s : Server V)

theorem begin_flush_cases : s.beginFlush number orders = { s with sync := (s.sync.selectEntries orders.dirty).2 } ∧
        ((s.sync.selectEntries orders.dirty).1 = [] ∨
          planFlush orders s.sync.config.batchSize (s.sync.selectEntries orders.dirty).1 = none) ∨
      ∃ batches, planFlush orders s.sync.config.batchSize (s.sync.selectEntries orders.dirty).1 = some batches ∧
        s.beginFlush number orders = { s with
          sync := (s.sync.selectEntries orders.dirty).2
          tasks := s.tasks.insert number ⟨batches, [], (s.sync.selectEntries orders.dirty).1.length⟩ } := by
  have config : (s.sync.selectEntries orders.dirty).2.config = s.sync.config := rfl
  simp only [beginFlush, config]
  split
  · exact .inl ⟨rfl, .inl (List.length_eq_zero_iff.mp ‹_›)⟩
  · split
    · exact .inl ⟨rfl, .inr ‹_›⟩
    · exact .inr ⟨_, ‹_›, rfl⟩

theorem begin_flush_task (keyed : s.sync.WellKeyed) (other : Nat) (task : FlushTask V)
    (found : (s.beginFlush number orders).tasks.lookup other = some task) :
    (∀ batch ∈ task.batches, ∀ x, x ∈ batch.pending ↔ ∃ entry ∈ batch.entries, x = entry.write) ∨
      s.tasks.lookup other = some task := by
  rcases begin_flush_cases number orders s with ⟨idle, _⟩ | ⟨batches, plan, begun⟩
  · rw [idle] at found
    exact .inr found
  · rw [begun, AList.lookup_insert_eq] at found
    split at found
    · cases found
      have planned := plan_flush_some orders _ _ batches plan
      exact .inl (planned.mem_pending (selected_keys_nodup orders.dirty s.sync keyed))
    · exact .inr found

theorem begin_flush_sync : (s.beginFlush number orders).sync = (s.sync.selectEntries orders.dirty).2 := by
  rcases begin_flush_cases number orders s with ⟨idle, _⟩ | ⟨_, _, begun⟩
  · rw [idle]
  · rw [begun]

inductive Written (s : Server V) (w : Write V) (env : Env V) : Except String Unit → Server V → Prop where
  | immediate (now : w.immediate = true) (result : Except String Unit) (cache : Redis.RedisCache (EntityData V))
      (applied : List (Command V)) (acked : List WriteID) :
      Written s w env result { s with
        sync := { s.sync with cache := cache, log := s.sync.log ++ applied }
        acked := acked
        next := s.next + 1 }
  | refused (later : w.immediate = false) (err : String) (cache : Redis.RedisCache (EntityData V)) :
      Written s w env (.error err) { s with sync := { s.sync with cache := cache }, next := s.next + 1 }
  | deferred (later : w.immediate = false) (synced : CacheSync V)
      (change : Write.Deferred { env with ticket := s.next } w s.sync synced) :
      Written s w env (.ok ()) { s with sync := synced, acked := s.acked ++ w.writeIDs s.next, next := s.next + 1 }

theorem write_written (w : Write V) (env : Env V) :
    ∃ result after, (w.run { env with ticket := s.next } s.sync).1 = result ∧ s.write w env = after ∧
      s.Written w env result after := by
  cases kind : w.immediate with
  | true =>
    obtain ⟨cache, applied, same, _⟩ := Write.run_immediate { env with ticket := s.next } w s.sync kind
    rcases called : w.run { env with ticket := s.next } s.sync with ⟨result, synced⟩
    rw [called] at same
    obtain rfl : synced = _ := same
    exact ⟨result, _, rfl, by rw [write, called], .immediate kind result cache applied _⟩
  | false =>
    rcases Write.run_deferred { env with ticket := s.next } w s.sync kind with
      ⟨err, cache, failed, _⟩ | ⟨synced, stored, change⟩
    · exact ⟨.error err, _, by rw [failed], by rw [write, failed], .refused kind err cache⟩
    · exact ⟨.ok (), _, by rw [stored], by rw [write, stored], .deferred kind synced change⟩

inductive Effect (s : Server V) : Action V → Server V → Prop where
  | write (w : Write V) (env : Env V) : Effect s (.write w env) (s.write w env)
  | beginFlush (number : Nat) (orders : Orders V) (fresh : s.tasks.lookup number = none) :
      Effect s (.beginFlush number orders) (s.beginFlush number orders)
  | executed (number : Nat) (entries : List (DirtyEntry V)) (command : Command V) (commands : List (Command V))
      (batches : List (Batch V)) (errs : List String) (selected : Nat)
      (present : s.tasks.lookup number = some ⟨⟨entries, command :: commands⟩ :: batches, errs, selected⟩) :
      Effect s (.exec number .ok) { s with
        sync := { s.sync with log := s.sync.log ++ [command] }
        tasks := s.tasks.insert number ⟨⟨entries, commands⟩ :: batches, errs, selected⟩ }
  | failed (number : Nat) (outcome : ExecOutcome) (err : String) (entries : List (DirtyEntry V)) (command : Command V)
      (commands : List (Command V)) (batches : List (Batch V)) (errs : List String) (selected : Nat)
      (present : s.tasks.lookup number = some ⟨⟨entries, command :: commands⟩ :: batches, errs, selected⟩)
      (bad : outcome ≠ .ok) :
      Effect s (.exec number outcome) { s with tasks := s.tasks.insert number ⟨batches, errs ++ [err], selected⟩ }
  | removed (number : Nat) (entries : List (DirtyEntry V)) (batches : List (Batch V)) (errs : List String) (selected : Nat)
      (present : s.tasks.lookup number = some ⟨⟨entries, []⟩ :: batches, errs, selected⟩) :
      Effect s (.remove number) { s with
        sync := s.sync.removeFlushed entries
        tasks := s.tasks.insert number ⟨batches, errs, selected⟩ }
  | finished (number : Nat) (errs : List String) (selected : Nat) (present : s.tasks.lookup number = some ⟨[], errs, selected⟩) :
      Effect s (.finish number) { s with sync := s.sync.noteFlush selected, tasks := s.tasks.erase number }

theorem step_effect (action : Action V) (after : Server V) (taken : s.step action = some after) : Effect s action after := by
  cases action with
  | write w env =>
    cases taken
    exact .write w env
  | beginFlush number orders =>
    simp only [step] at taken
    split at taken
    · cases taken
    · cases taken
      exact .beginFlush number orders ‹_›
  | exec number outcome =>
    simp only [step] at taken
    split at taken
    · rename_i entries command commands batches errs selected present
      cases outcome with
      | ok =>
        cases taken
        exact .executed number entries command commands batches errs selected present
      | refused err | failed err =>
        cases taken
        exact .failed number _ _ entries command commands batches errs selected present (by simp)
    · cases taken
  | remove number =>
    simp only [step] at taken
    split at taken
    · cases taken
      exact .removed number _ _ _ _ ‹_›
    · cases taken
  | finish number =>
    simp only [step] at taken
    split at taken
    · cases taken
      exact .finished number _ _ ‹_›
    · cases taken

end Server

end MmoServer.Db
